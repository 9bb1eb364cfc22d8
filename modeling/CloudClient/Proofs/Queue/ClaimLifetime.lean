import CloudClient.Proofs.Queue.Exclusivity
import Mathlib.Data.List.Flatten
/-! How long a claim lives: until it is released, or until the end that the call which made it or its last
renewal gave it. Looking it up and renewing it agree on that. Deletions have no part in it, and nothing
brings a claim back. -/
namespace CloudClient.Queue

def Command.deletes : Command → Bool
  | .delete _ | .deleteMany _ | .deleteByClaim .. => true
  | _ => false

namespace Store

/-! ### Lives told by the calls -/

def Makes (c : ClaimId) : Command → Outcome Answer → Prop
  | .claim _, .ok (.messages shown) => ∃ m ∈ shown, m.claim = some c
  | _, _ => False

def Made (c : ClaimId) (calls later : List Call) : Prop :=
  ∃ before make, calls = before ++ make :: later ∧ Makes c make.command ((empty.run before).answer make)

def Alive (c : ClaimId) (now : Nat) (calls : List Call) : Prop :=
  ∃ later ends, Made c calls later ∧ (∀ call ∈ later, call.command ≠ .release c) ∧
    lastEnd c (empty.history calls) = some ends ∧ now < ends

def endAfter (c : ClaimId) (now : Nat) (ends : Option Nat) : Command → Option Nat
  | .release d => if d = c then none else ends
  | .renew d ttl grace =>
    if d = c ∧ (ClaimRequest.new ttl grace).validate.isOk ∧ ends.any (now < ·) then
      some (now + ttl.nanos + grace.nanos)
    else ends
  | _ => ends

def endOver (c : ClaimId) (ends : Option Nat) (calls : List Call) : Option Nat :=
  calls.foldl (fun ends call => endAfter c call.now ends call.command) ends

def lasts (s : Store) (c : ClaimId) : Option Nat := (s.hold? c).map Hold.until

/-- From `now` on the claim is seen to end at `ends`; an end before that is as good as none. -/
def Ending (c : ClaimId) (now : Nat) (ends : Option Nat) (s : Store) : Prop :=
  (s.lasts c).filter (now < ·) = ends.filter (now < ·)

variable {s t : Store} {call : Call} {c d : ClaimId} {now : Nat} {ends : Option Nat}

theorem Ending.any (ending : Ending c now ends s) : (s.lasts c).any (now < ·) = ends.any (now < ·) := by
  rw [← Option.isSome_filter, ending, Option.isSome_filter]

theorem Ending.later {later : Nat} (order : now ≤ later) (ending : Ending c now ends s) :
    Ending c later ends s := by
  have past (o : Option Nat) : o.filter (later < ·) = (o.filter (now < ·)).filter (later < ·) := by
    rw [Option.filter_filter]
    congr 1
    funext n
    by_cases lives : later < n
    · simp [lives, Nat.lt_of_le_of_lt order lives]
    · simp [lives]
  rw [Ending, past, ending, ← past]

/-! ### The claim table -/

theorem holdAfterPurge (w : WellFormed s) (c : ClaimId) (now : Nat) :
    (s.purge now).hold? c = s.liveHold? c now := by
  refine Option.ext fun h => ?_
  rw [w.liveHoldIff]
  constructor
  · intro found
    obtain ⟨member, named⟩ := holdSource found
    obtain ⟨old, lives⟩ := w.purgeHold.mp member
    exact ⟨old, named, lives⟩
  · rintro ⟨old, rfl, lives⟩
    exact (w.purged now).hold (w.purgeHold.mpr ⟨old, lives⟩)

theorem liveLasts (s : Store) (c : ClaimId) (now : Nat) :
    (s.liveHold? c now).map Hold.until = (s.lasts c).filter (now < ·) := by
  rw [liveHold?, lasts, Option.filter_map]
  rfl

theorem gotWhileLasting (s : Store) (c : ClaimId) (now : Nat) :
    (s.getClaim now c).isSome = (s.lasts c).any (now < ·) := by
  rw [getClaim, Option.isSome_map, ← Option.isSome_map (f := Hold.until), liveLasts, Option.isSome_filter]

theorem Ending.got (ending : Ending c now ends s) : (s.getClaim now c).isSome = ends.any (now < ·) :=
  (gotWhileLasting s c now).trans ending.any

theorem Ending.purge (w : WellFormed s) (ending : Ending c now ends s) : Ending c now ends (s.purge now) := by
  rw [Ending, ← liveLasts, liveHoldAfterPurge w, liveLasts]
  exact ending

theorem Ending.of (same : t.lasts c = s.lasts c) (ending : Ending c now ends s) : Ending c now ends t := by
  rw [Ending, same]
  exact ending

theorem lastsListed (holds : t.holds = s.holds.map (listing t.messages)) : t.lasts c = s.lasts c := by
  rw [lasts, hold?, holds, List.find?_map, Option.map_map]
  rfl

theorem lastsKept (s : Store) (keep : Stored → Bool) : (s.kept keep).lasts c = s.lasts c :=
  lastsListed rfl

theorem lastsDismissed (s : Store) (d : ClaimId) :
    (s.dismissed (· == d)).lasts c = if d = c then none else s.lasts c := by
  have listed : (s.dismissed (· == d)).lasts c =
      ((s.holds.filter (fun h => !(h.id == d))).find? (·.id == c)).map Hold.until :=
    lastsListed (s := { s with holds := s.holds.filter (fun h => !(h.id == d)) }) rfl
  rw [listed, List.find?_filter]
  split
  · rename_i same
    rw [List.find?_eq_none.mpr fun h _ => by simp [same]]
    rfl
  · rename_i other
    rw [lasts, hold?]
    congr 2
    funext h
    by_cases named : h.id = c
    · simp [named, Ne.symm other]
    · simp [named]

theorem lastsGranted (s : Store) (now : Nat) (request : ClaimRequest) (taken : List Stored) (other : d ≠ c) :
    (s.granted now d request taken).lasts c = s.lasts c := by
  have unmade : (d == c) = false := beq_false_of_ne other
  simp only [lasts, hold?, granted, List.find?_append, List.find?_singleton, unmade, Bool.false_eq_true, if_false,
    Option.or_none]

theorem lastsRenewed (sound : Sound s) {g h : Hold} (member : g ∈ s.holds) (named : h.id = g.id) :
    (s.renewed h).lasts c = if h.id = c then some h.until else s.lasts c := by
  have ids : (fun other : Hold => other.id == c) ∘ (fun other => if other.id = h.id then h else other) =
      fun other => other.id == c := by
    funext other
    by_cases same : other.id = h.id <;> simp [same]
  rw [lasts, hold?, renewed, List.find?_map, ids, Option.map_map]
  split
  · rename_i own
    have found : s.holds.find? (·.id == c) = some g := by
      rw [← own, named]
      exact sound.hold member
    simp [found, named]
  · rename_i other
    refine Option.map_congr fun g found => ?_
    have own := (holdSource found).2
    simp [own, Ne.symm other]

/-! ### One call -/

theorem renewedWhileLasting (w : WellFormed s) (now : Nat) (c : ClaimId) {ttl grace : Duration}
    (valid : (ClaimRequest.new ttl grace).validate.isOk) :
    (s.renew now c ttl grace).1 = .ok (s.getClaim now c).isSome := by
  unfold renew
  cases checked : (ClaimRequest.new ttl grace).validate with
  | error e =>
    rw [checked] at valid
    contradiction
  | ok _ =>
    dsimp only
    rw [holdAfterPurge w, getClaim, Option.isSome_map]
    cases s.liveHold? c now <;> rfl

theorem renewalAnswered (w : WellFormed s) {ttl grace : Duration} (own : call.command = .renew c ttl grace) :
    (ClaimRequest.new ttl grace).validate.isOk ↔ (s.answer call).isOk := by
  rw [answer, own, perform]
  dsimp only
  constructor
  · intro valid
    rw [renewedWhileLasting w call.now c valid]
    rfl
  · unfold renew
    cases (ClaimRequest.new ttl grace).validate with
    | error e => exact id
    | ok _ => exact fun _ => rfl

theorem Ending.renewed (w : WellFormed s) {h : Hold} (member : h ∈ (s.purge now).holds) {ttl grace : Duration}
    (valid : (ClaimRequest.new ttl grace).validate.isOk) (ending : Ending c now ends (s.purge now)) :
    Ending c now (endAfter c now ends (.renew h.id ttl grace))
      ((s.purge now).renewed { h with ttl, grace, created := now }) := by
  have sound := (w.purged now).toSound
  rw [Ending, lastsRenewed sound (h := { h with ttl, grace, created := now }) member rfl, endAfter]
  by_cases own : h.id = c
  · have lives : ends.any (now < ·) := by
      have found : (s.purge now).lasts c = some h.until := by rw [lasts, ← own, sound.hold member, Option.map_some]
      rw [← ending.any, found]
      simpa using (w.purgeHold.mp member).2
    rw [if_pos own, if_pos ⟨own, valid, lives⟩]
    rfl
  · rw [if_neg own, if_neg fun all => own all.1]
    exact ending

theorem Ending.lapsed (absent : ∀ h ∈ s.holds, h.id ≠ d) {ttl grace : Duration} (ending : Ending c now ends s) :
    Ending c now (endAfter c now ends (.renew d ttl grace)) s := by
  rw [endAfter, if_neg]
  · exact ending
  · rintro ⟨rfl, _, lives⟩
    have none : s.lasts d = none := by rw [lasts, holdNone.mpr absent, Option.map_none]
    rw [← ending.any, none] at lives
    contradiction

theorem Ending.after (w : WellFormed s) (fresh : FreshFor s [call]) (other : c ∉ call.claimIds)
    (ending : Ending c call.now ends s) :
    Ending c call.now (endAfter c call.now ends call.command) (s.after call) := by
  have effect := performed w fresh
  have purged := ending.purge w
  generalize own : call.command = command at effect ⊢
  generalize given : s.answer call = answer at effect
  generalize left : s.after call = t at effect ⊢
  cases effect with
  | read reads => cases command <;> first | contradiction | exact ending
  | refused checked =>
    cases command <;> try contradiction
    · exact ending
    · exact ending
    · have invalid := fun valid => (renewalAnswered w own).mp valid
      rw [endAfter, if_neg fun all => by simpa [given, Except.isOk, Except.toBool] using invalid all.2.1]
      exact ending
  | posted _ _ _ holds => exact purged.of (by rw [lasts, lasts, hold?, hold?, holds])
  | deleted | deletedMany | deletedHeld => exact purged.of (lastsKept _ _)
  | notDeleted | nothing => exact purged
  | claimed =>
    have differ : call.fresh.claim ≠ c := fun same => by
      simp [claimIdsOfClaim own, same] at other
    exact purged.of (lastsGranted _ _ _ _ differ)
  | renewed member named =>
    subst named
    exact purged.renewed w member ((renewalAnswered w own).mpr (given ▸ rfl))
  | lapsed absent => exact purged.lapsed absent
  | @released d =>
    rw [endAfter, Ending, lastsDismissed]
    split
    · rfl
    · exact purged

/-! ### Runs -/

variable {calls : List Call}

theorem Ending.run {first last : Nat} (w : WellFormed s) (fresh : FreshFor s calls)
    (other : c ∉ calls.flatMap Call.claimIds) (timed : Timed calls)
    (within : ∀ call ∈ calls, first ≤ call.now ∧ call.now ≤ last) (order : first ≤ last)
    (ending : Ending c first ends s) : Ending c last (endOver c ends calls) (s.run calls) := by
  induction calls generalizing s ends first with
  | nil => exact ending.later order
  | cons call calls ih =>
    obtain ⟨later, timedLater⟩ := List.pairwise_cons.mp timed
    obtain ⟨here, withinLater⟩ := List.forall_mem_cons.mp within
    rw [List.flatMap_cons, List.mem_append, not_or] at other
    have next := (ending.later here.1).after w fresh.head other.1
    exact ih (afterWellFormed w fresh.head) (fresh.tail w) other.2 timedLater
      (fun call member => ⟨later call member, (withinLater call member).2⟩) here.2 next

theorem endOverNone (c : ClaimId) (calls : List Call) : endOver c none calls = none := by
  induction calls with
  | nil => rfl
  | cons call calls ih =>
    have stays : endAfter c call.now none call.command = none := by
      unfold endAfter
      split
      · exact ite_self _
      · simp
      · rfl
    rw [endOver, List.foldl_cons, stays]
    exact ih

theorem endOverReleased (released : ∃ call ∈ calls, call.command = .release c) : endOver c ends calls = none := by
  obtain ⟨call, member, release⟩ := released
  obtain ⟨before, later, rfl⟩ := List.append_of_mem member
  have ended (ends : Option Nat) : endAfter c call.now ends call.command = none := by
    rw [release]
    exact if_pos rfl
  rw [endOver, List.foldl_append, List.foldl_cons, ended]
  exact endOverNone c later

theorem endOverDeletions (c : ClaimId) (ends : Option Nat) (calls : List Call) :
    endOver c ends (calls.filter (!·.command.deletes)) = endOver c ends calls := by
  induction calls generalizing ends with
  | nil => rfl
  | cons call calls ih =>
    cases deletes : call.command.deletes with
    | true =>
      have same : endAfter c call.now ends call.command = ends := by
        cases command : call.command <;> first | rfl | simp [command, Command.deletes] at deletes
      rw [List.filter_cons_of_neg (by simp [deletes]), ih, endOver, endOver, List.foldl_cons, same]
    | false =>
      rw [List.filter_cons_of_pos (by simp [deletes])]
      exact ih _

/-! ### From the empty store -/

variable {make : Call} {before later more : List Call}

theorem makingCall (w : WellFormed s) (fresh : FreshFor s [call]) (makes : Makes c call.command (s.answer call)) :
    ∃ request shown m, call.command = .claim request ∧ s.answer call = .ok (.messages shown) ∧ m ∈ shown ∧
      m.claim = some c ∧ call.fresh.claim = c := by
  cases own : call.command with
  | claim request =>
    cases given : s.answer call with
    | error e => simp [Makes, own, given] at makes
    | ok answer =>
      cases answer with
      | messages shown =>
        rw [own, given] at makes
        obtain ⟨m, taken, under⟩ := makes
        have effect := answered w fresh own given
        exact ⟨request, shown, m, rfl, rfl, taken, under,
          Option.some.inj ((shownByClaim effect taken).1.symm.trans under)⟩
      | _ => simp [Makes, own, given] at makes
  | _ => simp [Makes, own] at makes

theorem Bound.got {id : MessageId} {ends : Nat} (sound : Sound s) (bound : Bound c id now ends s) :
    (s.getClaim now c).isSome ↔ now < ends := by
  rw [gotWhileLasting]
  cases bound with
  | held member named lasts =>
    rw [Store.lasts, ← named, sound.hold member, Option.map_some, lasts, Option.any_some, decide_eq_true_eq]
  | ended gone past =>
    rw [Store.lasts, holdNone.mpr gone]
    simpa using past

theorem gotUnlessReleased (fresh : FreshIds (before ++ make :: later))
    (past : ∀ call ∈ before ++ make :: later, call.now ≤ now)
    (makes : Makes c make.command ((empty.run before).answer make))
    (unreleased : ∀ call ∈ later, call.command ≠ .release c) :
    ∃ ends, lastEnd c (empty.history (before ++ make :: later)) = some ends ∧
      (((empty.run (before ++ make :: later)).getClaim now c).isSome ↔ now < ends) := by
  have w : WellFormed (empty.run before) := reachedWellFormed fresh.forEmpty.earlier
  have next : FreshFor (empty.run before) (make :: later) := fresh.forEmpty.later emptyWellFormed
  obtain ⟨request, shown, m, own, given, taken, under, rfl⟩ := makingCall w next.head makes
  have made := answered w next.head own given
  have first : Event.claimEnd make.fresh.claim ⟨empty.run before, make⟩ =
      some (make.now + request.ttl.nanos + request.grace.nanos) := by
    rw [Event.claimEnd, own, Event.answer, given]
    exact if_pos ⟨m, taken, under⟩
  obtain ⟨_, ⟨n, chosen, named⟩, _⟩ := shownByClaim made taken
  obtain ⟨x, member, _, rfl⟩ := w.purgeMember.mp ((chosenPart _ _).subset chosen)
  have unposted := storedNotPosted next member
  rw [List.flatMap_cons, List.mem_append, not_or] at unposted
  have bound := boundRun (afterWellFormed w next.head) (next.tail w) unreleased (claimNotMade next own)
    (named ▸ unposted.2)
    (fun call member => past call (List.mem_append_right _ (List.mem_cons_of_mem _ member)))
    (boundByClaim w made taken)
  rw [historyAppend, runAppend]
  exact ⟨_, lastEndMade first _ _, bound.got (runWellFormed (afterWellFormed w next.head) (next.tail w)).toSound⟩

theorem heldOrMade (w : WellFormed s) (fresh : FreshFor s [call])
    (held : c ∈ (s.after call).holds.map (·.id)) :
    c ∈ s.holds.map (·.id) ∨ Makes c call.command (s.answer call) := by
  have effect := performed w fresh
  rcases effect.claims w rfl c held with old | new
  · exact .inl old
  cases own : call.command with
  | claim request =>
    rw [claimIdsOfClaim own, List.mem_singleton] at new
    rw [own] at effect
    generalize given : s.answer call = answer at effect
    generalize left : s.after call = t at effect held
    cases effect with
    | read reads => contradiction
    | refused => exact .inl held
    | nothing => exact .inl (w.purgeClaims.subset held)
    | claimed _ some =>
      obtain ⟨m, member⟩ := List.exists_mem_of_ne_nil _ some
      exact .inr ⟨_, List.mem_map_of_mem member, congrArg Option.some new.symm⟩
  | _ => simp [Call.claimIds, own] at new

theorem madeWhenHeld (fresh : FreshIds calls) (held : c ∈ (empty.run calls).holds.map (·.id)) :
    ∃ later, Made c calls later := by
  obtain ⟨make, member, named⟩ := List.mem_flatMap.mp (reachedClaims fresh held)
  obtain ⟨before, later, rfl⟩ := List.append_of_mem member
  have w : WellFormed (empty.run before) := reachedWellFormed fresh.forEmpty.earlier
  have next : FreshFor (empty.run before) (make :: later) := fresh.forEmpty.later emptyWellFormed
  have given := (List.nodup_append.mp next.2).2.1
  rw [List.flatMap_cons] at given
  have unmade : c ∉ later.flatMap Call.claimIds := fun again =>
    (List.nodup_append.mp given).2.2 c named c again rfl
  rw [runAppend] at held
  have heldFirst := (runClaims (afterWellFormed w next.head) (next.tail w) c held).resolve_right unmade
  exact ⟨later, before, make, rfl, (heldOrMade w next.head heldFirst).resolve_left (next.unheld named)⟩

theorem unmadeLater (fresh : FreshIds (calls ++ more)) (made : Made c calls later) :
    c ∉ more.flatMap Call.claimIds := by
  obtain ⟨before, make, rfl, makes⟩ := made
  have w : WellFormed (empty.run before) := reachedWellFormed fresh.forEmpty.earlier.earlier
  have next : FreshFor (empty.run before) (make :: later) := fresh.forEmpty.earlier.later emptyWellFormed
  obtain ⟨request, _, _, own, _, _, _, rfl⟩ := makingCall w next.head makes
  intro again
  have distinct := fresh.2
  rw [List.flatMap_append] at distinct
  refine (List.nodup_append.mp distinct).2.2 _ ?_ _ again rfl
  rw [List.flatMap_append, List.flatMap_cons, claimIdsOfClaim own]
  exact List.mem_append_right _ List.mem_cons_self

theorem endingSince (fresh : FreshIds (before ++ make :: later)) (timed : Timed (before ++ make :: later))
    (past : ∀ call ∈ before ++ make :: later, call.now ≤ now)
    (makes : Makes c make.command ((empty.run before).answer make)) :
    Ending c now (endOver c (((empty.run before).after make).lasts c) later)
      (empty.run (before ++ make :: later)) := by
  have w : WellFormed (empty.run before) := reachedWellFormed fresh.forEmpty.earlier
  have next : FreshFor (empty.run before) (make :: later) := fresh.forEmpty.later emptyWellFormed
  obtain ⟨_, timedFrom, _⟩ := List.pairwise_append.mp timed
  have unmade : c ∉ later.flatMap Call.claimIds := by
    obtain ⟨request, _, _, own, _, _, _, rfl⟩ := makingCall w next.head makes
    exact claimNotMade next own
  have own : Ending c 0 (((empty.run before).after make).lasts c) ((empty.run before).after make) := rfl
  rw [runAppend]
  exact own.run (afterWellFormed w next.head) (next.tail w) unmade (List.pairwise_cons.mp timedFrom).2
    (fun call member => ⟨Nat.zero_le _, past call (List.mem_append_right _ (List.mem_cons_of_mem _ member))⟩)
    (Nat.zero_le _)

theorem FreshIds.part {part : List Call} (sub : part.Sublist calls) (fresh : FreshIds calls) : FreshIds part :=
  ⟨fresh.1.sublist (sub.flatMap _), fresh.2.sublist (sub.flatMap _)⟩

theorem gotDespiteDeletions (fresh : FreshIds (before ++ make :: later)) (timed : Timed (before ++ make :: later))
    (past : ∀ call ∈ before ++ make :: later, call.now ≤ now)
    (makes : Makes c make.command ((empty.run before).answer make)) :
    ((empty.run (before ++ make :: later.filter (!·.command.deletes))).getClaim now c).isSome =
      ((empty.run (before ++ make :: later)).getClaim now c).isSome := by
  have part : (before ++ make :: later.filter (!·.command.deletes)).Sublist (before ++ make :: later) :=
    (List.filter_sublist.cons_cons make).append_left before
  have without := endingSince (fresh.part part) (timed.sublist part)
    (fun call member => past call (part.subset member)) makes
  rw [(endingSince fresh timed past makes).got, without.got, endOverDeletions]

theorem madeWhenGot (fresh : FreshIds calls) (timed : Timed calls) (past : ∀ call ∈ calls, call.now ≤ now)
    (got : ((empty.run calls).getClaim now c).isSome) :
    ∃ later, Made c calls later ∧ ∀ call ∈ later, call.command ≠ .release c := by
  obtain ⟨h, found⟩ := Option.isSome_iff_exists.mp (Option.isSome_map.symm.trans got)
  obtain ⟨member, named, _⟩ := (reachedWellFormed fresh).liveHoldIff.mp found
  obtain ⟨later, before, make, rfl, makes⟩ := madeWhenHeld fresh (List.mem_map.mpr ⟨h, member, named⟩)
  refine ⟨later, ⟨before, make, rfl, makes⟩, fun call member released => ?_⟩
  rw [(endingSince fresh timed past makes).got, endOverReleased ⟨call, member, released⟩] at got
  contradiction

theorem goneForGood {last : Nat} (fresh : FreshIds (calls ++ more)) (timed : Timed more)
    (within : ∀ call ∈ more, now ≤ call.now ∧ call.now ≤ last) (order : now ≤ last)
    (unmade : c ∉ more.flatMap Call.claimIds) (gone : (empty.run calls).getClaim now c = none) :
    (empty.run (calls ++ more)).getClaim last c = none := by
  have ended : Ending c now none (empty.run calls) := by
    rw [Ending, ← liveLasts, Option.map_eq_none_iff.mp gone]
    rfl
  have after := ended.run (reachedWellFormed fresh.forEmpty.earlier) (fresh.forEmpty.later emptyWellFormed) unmade
    timed within order
  have lost : ((empty.run (calls ++ more)).getClaim last c).isSome = false := by
    rw [runAppend, after.got, endOverNone]
    rfl
  exact Option.isNone_iff_eq_none.mp (Option.isSome_eq_false_iff.mp lost)

theorem standsUntilTheEnd {calls : List Call} {now : Nat} (fresh : FreshIds calls) (timed : Timed calls)
    (past : ∀ call ∈ calls, call.now ≤ now) (c : ClaimId) :
    let s := empty.run calls
    ((s.getClaim now c).isSome ↔ Alive c now calls) ∧
    (∀ ttl grace, (ClaimRequest.new ttl grace).validate = .ok () →
      (s.renew now c ttl grace).1 = .ok (s.getClaim now c).isSome) ∧
    (∀ before make later, calls = before ++ make :: later →
      Makes c make.command ((empty.run before).answer make) →
      let undeleted := before ++ make :: later.filter (!·.command.deletes)
      ((empty.run undeleted).getClaim now c).isSome = (s.getClaim now c).isSome) ∧
    ∀ later more last, Made c calls later → s.getClaim now c = none → FreshIds (calls ++ more) → Timed more →
      (∀ call ∈ more, now ≤ call.now ∧ call.now ≤ last) → now ≤ last →
      (empty.run (calls ++ more)).getClaim last c = none := by
  intro s
  refine ⟨⟨fun live => ?_, fun alive => ?_⟩, fun ttl grace valid => ?_, ?_, ?_⟩
  · obtain ⟨later, ⟨before, make, rfl, makes⟩, unreleased⟩ := madeWhenGot fresh timed past live
    obtain ⟨ends, last, got⟩ := gotUnlessReleased fresh past makes unreleased
    exact ⟨later, ends, ⟨before, make, rfl, makes⟩, unreleased, last, got.mp live⟩
  · obtain ⟨later, ends, ⟨before, make, rfl, makes⟩, unreleased, given, lives⟩ := alive
    obtain ⟨_, last, got⟩ := gotUnlessReleased fresh past makes unreleased
    cases Option.some.inj (last.symm.trans given)
    exact got.mpr lives
  · exact renewedWhileLasting (reachedWellFormed fresh) now c (by rw [valid]; rfl)
  · rintro before make later rfl makes
    exact gotDespiteDeletions fresh timed past makes
  · intro later more last made gone fresh timed within order
    exact goneForGood fresh timed within order (unmadeLater fresh made) gone

theorem standsWithoutItsMessage :
    let request : ClaimRequest := ⟨.ofSeconds 60, .ofSeconds 60, 1⟩
    let calls : List Call := [
      ⟨⟨"a"⟩, 0, .named ["m", "n"] "", .post [⟨.ofSeconds 900, .null⟩, ⟨.ofSeconds 900, .null⟩]⟩,
      ⟨⟨"b"⟩, 1000000000, .named [] "c", .claim request⟩,
      ⟨⟨"b"⟩, 1000000000, .named [] "d", .claim request⟩,
      ⟨⟨"b"⟩, 50000000000, .named [] "", .deleteByClaim ⟨"m"⟩ ⟨"c"⟩⟩,
      ⟨⟨"b"⟩, 100000000000, .named [] "", .renew ⟨"c"⟩ (.ofSeconds 60) (.ofSeconds 60)⟩]
    let more : List Call := [
      ⟨⟨"b"⟩, 210000000000, .named [] "", .renew ⟨"d"⟩ (.ofSeconds 60) (.ofSeconds 60)⟩,
      ⟨⟨"b"⟩, 210000000000, .named [] "e", .claim request⟩]
    Alive ⟨"c"⟩ 200000000000 calls ∧
      ((empty.run calls).getClaim 200000000000 ⟨"c"⟩).map (·.messages.length) = some 0 ∧
      (empty.run calls).getClaim 200000000000 ⟨"d"⟩ = none ∧
      (empty.run (calls ++ more)).getClaim 220000000000 ⟨"d"⟩ = none := by
  intro request calls more
  have fresh : FreshIds calls := by decide
  have timed : Timed calls := by decide
  have past : ∀ call ∈ calls, call.now ≤ 200000000000 := by decide
  obtain ⟨stands, _⟩ := standsUntilTheEnd fresh timed past ⟨"c"⟩
  obtain ⟨_, _, _, gone⟩ := standsUntilTheEnd fresh timed past ⟨"d"⟩
  obtain ⟨later, made⟩ := madeWhenHeld fresh (c := ⟨"d"⟩) (by decide)
  have absent : (empty.run calls).getClaim 200000000000 ⟨"d"⟩ = none := Option.isNone_iff_eq_none.mp (by decide)
  exact ⟨stands.mp (by decide), by decide, absent,
    gone later more 220000000000 made absent (by decide) (by decide) (by decide) (by decide)⟩

end Store
end CloudClient.Queue
