import CloudClient.Proofs.Queue.Waiting
import Mathlib.Data.List.Perm.Basic
/-! Consumers that empty a queue together. Each one claims messages, deletes what it got under the claim that
it came with, and claims again until it gets nothing. However their operations are interleaved, every message
is handed to one of them once, and when all have come to their end nothing is left. -/
namespace CloudClient.Queue

/-! ### The loop of a consumer -/

inductive Stage
  | claiming
  | deleting (next : Message) (later : List Message)
  | stopped
  | failed

namespace Stage

def onward : List Message → Stage
  | [] => claiming
  | next :: later => deleting next later

def owed : Stage → List Message
  | deleting next later => next :: later
  | _ => []

def isEnded : Stage → Bool
  | stopped | failed => true
  | _ => false

theorem owedOnward (messages : List Message) : (onward messages).owed = messages := by
  cases messages <;> rfl

theorem onwardGoes (messages : List Message) : (onward messages).isEnded = false := by
  cases messages <;> rfl

def step (now : Nat) (request : ClaimRequest) (fresh : ClaimId) (s : Store) : Stage → Stage × List Message × Store
  | claiming =>
    match s.claim now fresh request with
    | (.ok messages, s) => (if messages.isEmpty then stopped else onward messages, messages, s)
    | (.error _, s) => (failed, [], s)
  | deleting next later =>
    match next.claim with
    | none => (failed, [], s)
    | some claim =>
      match s.deleteByClaim now next.id claim with
      | (.ok (), s) => (onward later, [], s)
      | (.error _, s) => (failed, [], s)
  | ended => (ended, [], s)

end Stage

structure Consumer where
  request : ClaimRequest
  stage : Stage

structure Crew where
  store : Store
  consumers : List Consumer
  handed : List (Nat × Message)

structure Turn where
  consumer : Nat
  fresh : ClaimId

namespace Crew

def gather (s : Store) (requests : List ClaimRequest) : Crew := ⟨s, requests.map fun r => ⟨r, .claiming⟩, []⟩

def turn? (now : Nat) (crew : Crew) (t : Turn) : Option Crew :=
  match crew.consumers[t.consumer]? with
  | none => none
  | some c =>
    if c.stage.isEnded then none
    else
      let (stage, messages, store) := c.stage.step now c.request t.fresh crew.store
      some ⟨store, crew.consumers.set t.consumer { c with stage }, crew.handed ++ messages.map (t.consumer, ·)⟩

def interleave? (now : Nat) (crew : Crew) : List Turn → Option Crew
  | [] => some crew
  | t :: turns => (crew.turn? now t).bind fun crew => crew.interleave? now turns

end Crew

/-! ### One operation -/

open Store

def Message.ticket (m : Message) : MessageId × Option ClaimId := (m.id, m.claim)

inductive Advance (now : Nat) (s : Store) : Stage → Stage → List Message → Store → Prop
  | claimed {messages t} (some : messages ≠ [])
      (waiting : (s.waiting now).Perm (messages.map (·.id) ++ t.waiting now))
      (out : (t.out now).Perm (messages.map Message.ticket ++ s.out now)) :
      Advance now s .claiming (.onward messages) messages t
  | nothing {t} (none : s.waiting now = []) (waiting : s.waiting now = t.waiting now)
      (out : t.out now = s.out now) : Advance now s .claiming .stopped [] t
  | deleted {next later t} (waiting : (s.waiting now).Perm (t.waiting now))
      (out : (s.out now).Perm (next.ticket :: t.out now)) :
      Advance now s (.deleting next later) (.onward later) [] t

namespace Advance

variable {s t : Store} {now : Nat} {stage next : Stage} {messages : List Message}

theorem unfailed (advance : Advance now s stage next messages t) : next ≠ .failed := by
  cases advance with
  | @claimed messages => cases messages <;> nofun
  | nothing => nofun
  | @deleted _ later => cases later <;> nofun

theorem handsOut (advance : Advance now s stage next messages t) :
    (s.waiting now).Perm (messages.map (·.id) ++ t.waiting now) := by
  cases advance with
  | claimed _ waiting => exact waiting
  | nothing _ waiting => exact waiting ▸ .refl _
  | deleted waiting => exact waiting

theorem owing (advance : Advance now s stage next messages t) {others : List (MessageId × Option ClaimId)}
    (owing : (stage.owed.map Message.ticket ++ others).Perm (s.out now)) :
    (next.owed.map Message.ticket ++ others).Perm (t.out now) := by
  cases advance with
  | claimed _ _ out =>
    rw [Stage.owedOnward]
    exact (owing.append_left _).trans out.symm
  | nothing _ _ out => exact out ▸ owing
  | deleted _ out =>
    rw [Stage.owedOnward]
    exact (owing.trans out).cons_inv

theorem emptied (advance : Advance now s stage next messages t)
    (empty : next = .stopped ∨ s.waiting now = []) : t.waiting now = [] := by
  cases advance with
  | @claimed messages t some waiting =>
    rcases empty with stopped | empty
    · cases messages <;> nomatch stopped
    · exact (List.append_eq_nil_iff.mp (empty ▸ waiting).nil_eq.symm).2
  | nothing none waiting => exact waiting ▸ none
  | @deleted _ later t waiting =>
    rcases empty with stopped | empty
    · cases later <;> nomatch stopped
    · exact (empty ▸ waiting).nil_eq.symm

theorem shortens (advance : Advance now s stage next messages t) :
    2 * (t.waiting now).length + next.owed.length + (if !next.isEnded then 1 else 0) <
      2 * (s.waiting now).length + stage.owed.length + (if !stage.isEnded then 1 else 0) := by
  cases advance with
  | @claimed messages t some waiting =>
    have positive := List.length_pos_iff.mpr some
    have split := waiting.length_eq
    rw [List.length_append, List.length_map] at split
    rw [Stage.owedOnward, Stage.onwardGoes]
    simp only [Stage.owed, Stage.isEnded, List.length_nil, Bool.not_false, if_true]
    omega
  | nothing _ waiting =>
    rw [waiting]
    exact Nat.lt_succ_self _
  | @deleted _ later t waiting =>
    rw [waiting.length_eq, Stage.owedOnward, Stage.onwardGoes]
    simp only [Stage.owed, Stage.isEnded, List.length_cons, Bool.not_false, if_true]
    omega

end Advance

variable {s : Store} {now : Nat} {request : ClaimRequest} {fresh : ClaimId}

theorem claimAdvances (w : WellFormed s) (now : Nat) (valid : request.validate = .ok ())
    (unused : fresh ∉ s.holds.map (·.id)) :
    let (stage, messages, t) := Stage.claiming.step now request fresh s
    Advance now s .claiming stage messages t := by
  let chosen := (s.purge now).chosen request.limit
  simp only [Stage.step]
  rw [claimAnswer w now valid unused]
  by_cases nothing : chosen = []
  · rw [if_pos nothing, show (s.purge now).chosen request.limit = [] from nothing]
    have empty : s.waiting now = [] := by
      rw [waiting, List.map_eq_nil_iff]
      exact (List.take_eq_nil_iff.mp nothing).resolve_left (Nat.ne_of_gt (request.limitPositive valid))
    exact .nothing empty (waitingAfterPurge w).symm (outAfterPurge w)
  · rw [if_neg nothing]
    dsimp only
    rw [if_neg (by simpa using nothing)]
    have free : ∀ m ∈ chosen, m.claim = none := fun m member => chosenFree member
    obtain ⟨waits, holds⟩ := w.purgedLive.granting valid (chosenPart _ request.limit) free (w.purgeUnused unused now)
    rw [waitingAfterPurge w] at waits
    rw [outAfterPurge w] at holds
    have tickets : (chosen.map (handed fresh now)).map Message.ticket =
        chosen.map fun m => (m.id, some fresh) := List.map_map
    rw [← handedIds fresh now] at waits
    rw [← tickets] at holds
    exact .claimed (by simpa using nothing) waits holds

theorem deleteAdvances (w : WellFormed s) {next : Message} (owed : next.ticket ∈ s.out now)
    (later : List Message) (request : ClaimRequest) (fresh : ClaimId) :
    let (stage, messages, t) := (Stage.deleting next later).step now request fresh s
    Advance now s (.deleting next later) stage messages t := by
  obtain ⟨c, given, m, member, named, under⟩ := outUnder owed
  have found : s.get now next.id = some ((s.purge now).view m now) := (gotPurged w).mpr ⟨m, member, named, rfl⟩
  have holder : ((s.purge now).view m now).claim = some c := (w.purgeHolder member).trans under
  have answer : s.deleteByClaim now next.id c = (.ok (), (s.purge now).kept (·.id != next.id)) := by
    rw [deleteByClaimAnswer w, found]
    dsimp only
    rw [holder]
    exact if_pos rfl
  obtain ⟨waits, holds⟩ := w.purgedLive.erasing member under
  rw [waitingAfterPurge w, named] at waits
  rw [outAfterPurge w, named, ← given] at holds
  simp only [Stage.step, given]
  rw [answer]
  exact .deleted waits holds

variable {stage next : Stage} {messages : List Message} {t : Store}

theorem advanced (w : WellFormed s) (valid : request.validate = .ok ()) (unused : fresh ∉ s.holds.map (·.id))
    (goes : stage.isEnded = false) (owed : ∀ m ∈ stage.owed, m.ticket ∈ s.out now)
    (stepped : stage.step now request fresh s = (next, messages, t)) : Advance now s stage next messages t := by
  cases stage with
  | claiming =>
    have advance := claimAdvances w now valid unused
    rwa [stepped] at advance
  | deleting first later =>
    have advance := deleteAdvances w (owed first List.mem_cons_self) later request fresh
    rwa [stepped] at advance
  | stopped | failed => contradiction

theorem stepStore (stepped : stage.step now request fresh s = (next, messages, t)) :
    t = s ∨ t = (s.claim now fresh request).2 ∨ ∃ id c, t = (s.deleteByClaim now id c).2 := by
  have same : (stage.step now request fresh s).2.2 = t := by rw [stepped]
  rw [← same]
  cases stage with
  | claiming =>
    simp only [Stage.step]
    rcases s.claim now fresh request with ⟨_ | _, _⟩ <;> exact .inr (.inl rfl)
  | deleting first later =>
    simp only [Stage.step]
    cases first.claim with
    | none => exact .inl rfl
    | some c =>
      dsimp only
      refine .inr (.inr ⟨first.id, c, ?_⟩)
      rcases s.deleteByClaim now first.id c with ⟨_ | _, _⟩ <;> rfl
  | stopped | failed => exact .inl rfl

theorem stepSound (w : WellFormed s) (unused : fresh ∉ s.holds.map (·.id))
    (stepped : stage.step now request fresh s = (next, messages, t)) :
    WellFormed t ∧ ∀ d ∈ t.holds.map (·.id), d ∈ s.holds.map (·.id) ∨ d = fresh := by
  let call (command : Command) : Call := ⟨⟨""⟩, now, ⟨fun _ => ⟨""⟩, fresh⟩, command⟩
  obtain rfl | rfl | ⟨id, c, rfl⟩ := stepStore stepped
  · exact ⟨w, fun d old => .inl old⟩
  · have effect : Effect s (call (.claim request)) (.claim request) _ _ := claimEffect w request unused
    exact ⟨effect.wellFormed w, fun d member =>
      (effect.claims w rfl d member).imp_right List.mem_singleton.mp⟩
  · have effect : Effect s (call (.deleteByClaim id c)) (.deleteByClaim id c) _ _ := deleteByClaimEffect w id c
    exact ⟨effect.wellFormed w, fun d member =>
      .inl ((effect.claims w rfl d member).resolve_right List.not_mem_nil)⟩

/-! ### One turn -/

namespace Crew

def owed (crew : Crew) : List Message := crew.consumers.flatMap (·.stage.owed)

def work (now : Nat) (crew : Crew) : Nat :=
  2 * (crew.store.waiting now).length + crew.owed.length + crew.consumers.countP (!·.stage.isEnded)

structure Shared (now : Nat) (ids : List MessageId) (crew : Crew) : Prop where
  well : WellFormed crew.store
  valid : ∀ c ∈ crew.consumers, c.request.validate = .ok ()
  unfailed : ∀ c ∈ crew.consumers, c.stage ≠ .failed
  owing : (crew.owed.map Message.ticket).Perm (crew.store.out now)
  divided : (crew.handed.map (·.2.id) ++ crew.store.waiting now).Perm ids
  emptied : (∃ c ∈ crew.consumers, c.stage = .stopped) → crew.store.waiting now = []

variable {ids : List MessageId} {crew next : Crew} {t : Turn}

theorem replaced {α : Type} {rows : List α} {i : Nat} {row : α} (found : rows[i]? = some row) :
    ∃ others, rows.Perm (row :: others) ∧ ∀ new, (rows.set i new).Perm (new :: others) := by
  obtain ⟨inside, rfl⟩ := List.getElem?_eq_some_iff.mp found
  exact ⟨rows.eraseIdx i, (List.getElem_cons_eraseIdx_perm inside).symm,
    fun new => List.set_perm_cons_eraseIdx inside new⟩

theorem turnStepsOne (ok : crew.turn? now t = some next) :
    ∃ c others stage messages, crew.consumers.Perm (c :: others) ∧ c.stage.isEnded = false ∧
      c.stage.step now c.request t.fresh crew.store = (stage, messages, next.store) ∧
      next.consumers.Perm ({ c with stage } :: others) ∧
      next.handed = crew.handed ++ messages.map (t.consumer, ·) := by
  unfold turn? at ok
  cases found : crew.consumers[t.consumer]? with
  | none =>
    rw [found] at ok
    contradiction
  | some c =>
    rw [found] at ok
    cases goes : c.stage.isEnded with
    | true =>
      simp only [goes] at ok
      contradiction
    | false =>
      simp only [goes] at ok
      obtain ⟨others, before, after⟩ := replaced found
      cases ok
      exact ⟨c, others, _, _, before, goes, rfl, after _, rfl⟩

theorem Shared.turnAdvances (shared : Shared now ids crew) (unused : t.fresh ∉ crew.store.holds.map (·.id))
    (ok : crew.turn? now t = some next) :
    WellFormed next.store ∧ (∀ d ∈ next.store.holds.map (·.id), d ∈ crew.store.holds.map (·.id) ∨ d = t.fresh) ∧
      ∃ c others stage messages, crew.consumers.Perm (c :: others) ∧
        next.consumers.Perm ({ c with stage } :: others) ∧
        Advance now crew.store c.stage stage messages next.store ∧
        next.handed = crew.handed ++ messages.map (t.consumer, ·) := by
  obtain ⟨c, others, stage, messages, before, goes, stepped, after, handed⟩ := Crew.turnStepsOne ok
  have member : c ∈ crew.consumers := before.mem_iff.mpr List.mem_cons_self
  have owed : ∀ m ∈ c.stage.owed, m.ticket ∈ crew.store.out now := fun m hm =>
    shared.owing.subset (List.mem_map_of_mem (List.mem_flatMap.mpr ⟨c, member, hm⟩))
  obtain ⟨well, claims⟩ := stepSound shared.well unused stepped
  exact ⟨well, claims, c, others, stage, messages, before, after,
    advanced shared.well (shared.valid c member) unused goes owed stepped, handed⟩

theorem Shared.turn (shared : Shared now ids crew) (unused : t.fresh ∉ crew.store.holds.map (·.id))
    (ok : crew.turn? now t = some next) : Shared now ids next ∧ next.work now < crew.work now := by
  obtain ⟨well, _, c, others, stage, messages, before, after, advance, handed⟩ := shared.turnAdvances unused ok
  have member : c ∈ crew.consumers := before.mem_iff.mpr List.mem_cons_self
  have other : ∀ d ∈ others, d ∈ crew.consumers := fun d hd => before.mem_iff.mpr (List.mem_cons_of_mem _ hd)
  have owedBefore : crew.owed.Perm (c.stage.owed ++ others.flatMap (·.stage.owed)) := before.flatMap_right _
  have owedAfter : next.owed.Perm (stage.owed ++ others.flatMap (·.stage.owed)) := after.flatMap_right _
  refine ⟨⟨well, fun d hd => ?_, fun d hd => ?_, ?_, ?_, ?_⟩, ?_⟩
  · rcases List.mem_cons.mp (after.mem_iff.mp hd) with rfl | hd
    · exact shared.valid c member
    · exact shared.valid d (other d hd)
  · rcases List.mem_cons.mp (after.mem_iff.mp hd) with rfl | hd
    · exact advance.unfailed
    · exact shared.unfailed d (other d hd)
  · have owing := (owedBefore.map Message.ticket).symm.trans shared.owing
    rw [List.map_append] at owing
    refine (owedAfter.map Message.ticket).trans ?_
    rw [List.map_append]
    exact advance.owing owing
  · have ids : messages.map (·.id) = (messages.map (t.consumer, ·)).map (·.2.id) := by rw [List.map_map]; rfl
    rw [handed, List.map_append, List.append_assoc, ← ids]
    exact (advance.handsOut.symm.append_left _).trans shared.divided
  · rintro ⟨d, hd, stopped⟩
    refine advance.emptied ?_
    rcases List.mem_cons.mp (after.mem_iff.mp hd) with rfl | hd
    · exact .inl stopped
    · exact .inr (shared.emptied ⟨d, other d hd, stopped⟩)
  · have shorter := advance.shortens
    unfold work
    rw [owedBefore.length_eq, owedAfter.length_eq, before.countP_eq, after.countP_eq]
    simp only [List.length_append, List.countP_cons]
    omega

/-! ### Interleaved turns -/

variable {turns : List Turn}

theorem interleavedLength (ok : crew.interleave? now turns = some next) :
    next.consumers.length = crew.consumers.length := by
  induction turns generalizing crew with
  | nil =>
    cases ok
    rfl
  | cons t turns ih =>
    obtain ⟨middle, first, rest⟩ := Option.bind_eq_some_iff.mp ok
    obtain ⟨_, _, _, _, before, _, _, after, _⟩ := turnStepsOne first
    rw [ih rest, after.length_eq, before.length_eq, List.length_cons, List.length_cons]

theorem canTurn {i : Nat} {c : Consumer} (found : crew.consumers[i]? = some c) (goes : c.stage.isEnded = false)
    (fresh : ClaimId) : (crew.turn? now ⟨i, fresh⟩).isSome := by
  unfold turn?
  rw [found]
  simp only [goes]
  rfl

theorem Shared.later (shared : Shared now ids crew)
    (unused : (crew.store.holds.map (·.id) ++ (t :: turns).map (·.fresh)).Nodup)
    (ok : crew.turn? now t = some next) :
    t.fresh ∉ crew.store.holds.map (·.id) ∧ (next.store.holds.map (·.id) ++ turns.map (·.fresh)).Nodup := by
  obtain ⟨_, distinct, apart⟩ := List.nodup_append.mp unused
  obtain ⟨once, later⟩ := List.nodup_cons.mp distinct
  have first : t.fresh ∉ crew.store.holds.map (·.id) := fun old => apart _ old _ List.mem_cons_self rfl
  obtain ⟨well, claims, _⟩ := shared.turnAdvances first ok
  refine ⟨first, List.nodup_append.mpr ⟨well.claims, later, ?_⟩⟩
  rintro d member _ again rfl
  rcases claims d member with old | rfl
  · exact apart d old d (List.mem_cons_of_mem _ again) rfl
  · exact once again

theorem Shared.interleaved (shared : Shared now ids crew)
    (unused : (crew.store.holds.map (·.id) ++ turns.map (·.fresh)).Nodup)
    (ok : crew.interleave? now turns = some next) :
    Shared now ids next ∧ turns.length + next.work now ≤ crew.work now := by
  induction turns generalizing crew with
  | nil =>
    cases ok
    exact ⟨shared, Nat.le_of_eq (Nat.zero_add _)⟩
  | cons t turns ih =>
    obtain ⟨middle, first, rest⟩ := Option.bind_eq_some_iff.mp ok
    obtain ⟨unusedNow, unusedLater⟩ := shared.later unused first
    obtain ⟨sharedLater, less⟩ := shared.turn unusedNow first
    obtain ⟨sharedAtEnd, fewer⟩ := ih sharedLater unusedLater rest
    refine ⟨sharedAtEnd, ?_⟩
    rw [List.length_cons]
    omega

/-! ### From the start on -/

theorem gathered (w : WellFormed s) {requests : List ClaimRequest} (valid : ∀ r ∈ requests, r.validate = .ok ())
    (unheld : ∀ m ∈ s.live now, s.holder? m now = none) :
    Shared now ((s.live now).map (·.id)) (gather s requests) ∧
      (gather s requests).work now = 2 * (s.live now).length + requests.length := by
  have free : ∀ m ∈ (s.purge now).messages, m.claim = none := by
    intro m member
    rw [w.purgeMessages] at member
    obtain ⟨n, hn, rfl⟩ := List.mem_map.mp member
    exact unheld n hn
  have waits : s.waiting now = (s.live now).map (·.id) := by
    rw [waiting, List.filter_eq_self.mpr fun m member => by simp [free m member], w.purgeMessages, List.map_map]
    rfl
  have out : s.out now = [] := by
    rw [Store.out, List.filter_eq_nil_iff.mpr fun m member => by simp [free m member]]
    rfl
  have idle : ∀ c ∈ (gather s requests).consumers, c.stage = .claiming ∧ c.request ∈ requests := by
    intro c member
    obtain ⟨r, hr, rfl⟩ := List.mem_map.mp member
    exact ⟨rfl, hr⟩
  have owed : (gather s requests).owed = [] :=
    List.flatMap_eq_nil_iff.mpr fun c member => by rw [(idle c member).1]; rfl
  refine ⟨⟨w, fun c member => valid _ (idle c member).2, fun c member => ?_, ?_, ?_, ?_⟩, ?_⟩
  · intro failed
    cases (idle c member).1.symm.trans failed
  · rw [owed]
    exact out ▸ .refl _
  · exact waits ▸ .refl _
  · rintro ⟨c, member, stopped⟩
    cases (idle c member).1.symm.trans stopped
  · have going : (gather s requests).consumers.countP (!·.stage.isEnded) = requests.length := by
      rw [List.countP_eq_length.mpr fun c member => by rw [(idle c member).1]; rfl]
      exact List.length_map _
    rw [work, owed, going]
    simp only [gather, waits, List.length_map, List.length_nil, Nat.add_zero]

theorem Shared.goes (shared : Shared now ids crew) {c : Consumer} (member : c ∈ crew.consumers)
    (running : c.stage ≠ .stopped) : c.stage.isEnded = false := by
  have unfailed := shared.unfailed c member
  cases stage : c.stage with
  | claiming | deleting => rfl
  | stopped => exact absurd stage running
  | failed => exact absurd stage unfailed

theorem Shared.atMostOnce (shared : Shared now ids crew) (distinct : ids.Nodup) :
    (∀ entry ∈ crew.handed, entry.2.id ∈ ids) ∧ (crew.handed.map (·.2.id)).Nodup :=
  ⟨fun _ member => shared.divided.subset (List.mem_append_left _ (List.mem_map_of_mem member)),
    (List.nodup_append.mp (shared.divided.nodup_iff.mpr distinct)).1⟩

theorem Shared.atEnd (shared : Shared now ids crew) (some : crew.consumers ≠ [])
    (stopped : ∀ c ∈ crew.consumers, c.stage = .stopped) :
    (crew.handed.map (·.2.id)).Perm ids ∧ crew.store.live now = [] := by
  obtain ⟨c, member⟩ := List.exists_mem_of_ne_nil _ some
  have waits := shared.emptied ⟨c, member, stopped c member⟩
  have owed : crew.owed = [] := List.flatMap_eq_nil_iff.mpr fun c member => by rw [stopped c member]; rfl
  have holds : crew.store.out now = [] := by
    have owing := shared.owing
    rw [owed] at owing
    exact owing.nil_eq.symm
  have divided := shared.divided
  rw [waits, List.append_nil] at divided
  rw [waiting, List.map_eq_nil_iff, List.filter_eq_nil_iff] at waits
  rw [out, List.map_eq_nil_iff, List.filter_eq_nil_iff] at holds
  have none : (crew.store.purge now).messages = [] := List.eq_nil_iff_forall_not_mem.mpr fun m member => by
    have claimed := waits m member
    have free := holds m member
    cases under : m.claim <;> simp [under] at claimed free
  rw [shared.well.purgeMessages, List.map_eq_nil_iff] at none
  exact ⟨divided, none⟩

theorem countHanded (handed : List (Nat × Message)) (id : MessageId) :
    handed.countP (·.2.id = id) = (handed.map (·.2.id)).count id := by
  rw [List.count, List.countP_map]
  exact List.countP_congr fun _ _ => by simp

theorem processedOnce {calls : List Call} {requests : List ClaimRequest}
    (fresh : FreshIds calls) (valid : ∀ r ∈ requests, r.validate = .ok ())
    (unheld : ∀ m ∈ (empty.run calls).live now, (empty.run calls).holder? m now = none)
    (unused : (calls.flatMap Call.claimIds ++ turns.map (·.fresh)).Nodup)
    (ran : (gather (empty.run calls) requests).interleave? now turns = some crew) :
    let ids := ((empty.run calls).live now).map (·.id)
    (∀ c ∈ crew.consumers, c.stage ≠ .failed) ∧
      turns.length ≤ 2 * ids.length + requests.length ∧
      (∀ i c, crew.consumers[i]? = some c → c.stage ≠ .stopped → ∀ id, (crew.turn? now ⟨i, id⟩).isSome) ∧
      (∀ entry ∈ crew.handed, entry.2.id ∈ ids) ∧ (crew.handed.map (·.2.id)).Nodup ∧
      (requests ≠ [] → (∀ c ∈ crew.consumers, c.stage = .stopped) →
        (∀ id ∈ ids, crew.handed.countP (·.2.id = id) = 1) ∧ crew.store.live now = []) := by
  intro ids
  have w := reachedWellFormed fresh
  have distinct : ids.Nodup := w.ids.sublist (List.filter_sublist.map _)
  have unusedYet : ((empty.run calls).holds.map (·.id) ++ turns.map (·.fresh)).Nodup := by
    obtain ⟨_, later, apart⟩ := List.nodup_append.mp unused
    exact List.nodup_append.mpr ⟨w.claims, later, fun c held => apart c (reachedClaims fresh held)⟩
  obtain ⟨start, work⟩ := gathered w valid unheld
  obtain ⟨shared, turned⟩ := start.interleaved unusedYet ran
  obtain ⟨live, once⟩ := shared.atMostOnce distinct
  refine ⟨shared.unfailed, ?_, fun i c found running id => ?_, live, once, fun some stopped => ?_⟩
  · rw [work] at turned
    rw [List.length_map]
    omega
  · exact canTurn found (shared.goes (List.mem_of_getElem? found) running) id
  · have manned : crew.consumers ≠ [] := by
      rw [← List.length_pos_iff, interleavedLength ran]
      exact List.length_pos_iff.mpr (by simpa [gather] using some)
    obtain ⟨all, none⟩ := shared.atEnd manned stopped
    refine ⟨fun id member => ?_, none⟩
    rw [countHanded, all.count_eq, List.count_eq_one_of_mem distinct member]

theorem processedByTwo :
    let now := 200000000000
    let calls : List Call := [
      ⟨⟨"p"⟩, 0, .named ["k", "m", "n"] "", .post (.replicate 3 ⟨.ofSeconds 300, .null⟩)⟩,
      ⟨⟨"p"⟩, 0, .named [] "a", .claim ⟨.ofSeconds 60, .ofSeconds 60, 1⟩⟩]
    let requests : List ClaimRequest := [⟨.ofSeconds 60, .ofSeconds 60, 2⟩, ⟨.ofSeconds 90, .ofSeconds 60, 1⟩]
    let turns : List Turn := [⟨0, ⟨"b"⟩⟩, ⟨1, ⟨"c"⟩⟩, ⟨0, ⟨"d"⟩⟩, ⟨1, ⟨"e"⟩⟩, ⟨1, ⟨"f"⟩⟩, ⟨0, ⟨"g"⟩⟩, ⟨0, ⟨"h"⟩⟩]
    ∃ crew, (gather (empty.run calls) requests).interleave? now turns = some crew ∧
      (∀ c ∈ crew.consumers, c.stage = .stopped) ∧
      crew.handed.map (fun (i, m) => (i, m.id)) = [(0, ⟨"k"⟩), (0, ⟨"m"⟩), (1, ⟨"n"⟩)] ∧
      (∀ id ∈ ((empty.run calls).live now).map (·.id), crew.handed.countP (·.2.id = id) = 1) ∧
      crew.store.live now = [] := by
  intro now calls requests turns
  let reached := (gather (empty.run calls) requests).interleave? now turns
  have ends : reached.any fun crew => crew.consumers.all (·.stage matches .stopped) := by decide +kernel
  have handed : reached.map (·.handed.map fun (i, m) => (i, m.id)) = some [(0, ⟨"k"⟩), (0, ⟨"m"⟩), (1, ⟨"n"⟩)] := by
    decide +kernel
  obtain ⟨crew, ran, all⟩ := (Option.any_eq_true _ _).mp ends
  rw [ran] at handed
  have stopped : ∀ c ∈ crew.consumers, c.stage = .stopped := by
    intro c member
    have one := List.all_eq_true.mp all c member
    cases stage : c.stage <;> simp [stage] at one ⊢
  have fresh : FreshIds calls := by decide
  have valid : ∀ r ∈ requests, r.validate = .ok () := by decide
  have unheld : ∀ m ∈ (empty.run calls).live now, (empty.run calls).holder? m now = none := by decide
  have unused : (calls.flatMap Call.claimIds ++ turns.map (·.fresh)).Nodup := by decide
  obtain ⟨_, _, _, _, _, done⟩ := processedOnce fresh valid unheld unused ran
  exact ⟨crew, ran, stopped, Option.some.inj handed, done (by decide) stopped⟩

end Crew
end CloudClient.Queue
