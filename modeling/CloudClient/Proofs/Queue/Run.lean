import CloudClient.Proofs.Queue.Purging
/-! Runs of a store: calls one after the other, each with its own client, time and fresh ids. `Effect`
says in cases what one call answers and leaves; what a run keeps follows by induction over its calls. -/
namespace CloudClient.Queue

theorem lifetimeBounds {what : String} {given greatest : Duration}
    (ok : checkLifetime what given greatest = .ok ()) :
    minTtl.nanos ≤ given.nanos ∧ given.nanos ≤ greatest.nanos := by
  unfold checkLifetime at ok
  split at ok
  · contradiction
  · rename_i inside
    simp only [Duration.lt_def, not_or, Nat.not_lt] at inside
    exact inside

theorem ClaimRequest.holdPositive {request : ClaimRequest} (valid : request.validate = .ok ()) :
    0 < request.hold.nanos := by
  unfold validate at valid
  split at valid <;> try contradiction
  rename_i ttl _
  have least := (lifetimeBounds ttl).1
  have positive : 0 < minTtl.nanos := by decide
  simp only [hold, Duration.nanos_add]
  omega

def Command.reads : Command → Bool
  | .streamPage _ | .get _ | .list _ | .getClaim _ => true
  | _ => false

def Command.checked : Command → Bool
  | .post _ | .claim _ | .renew .. => true
  | _ => false

namespace Store

/-! ### Calls and runs -/

structure Call where
  client : ClientId
  now : Nat
  fresh : Fresh
  command : Command

def Call.messageIds (call : Call) : List MessageId :=
  match call.command with
  | .post drafts => (List.range drafts.length).map call.fresh.message
  | _ => []

def Call.claimIds (call : Call) : List ClaimId :=
  match call.command with
  | .claim _ => [call.fresh.claim]
  | _ => []

def Fresh.named (messages : List String) (claim : String) : Fresh :=
  ⟨fun i => ⟨messages.getD i ""⟩, ⟨claim⟩⟩

def answer (s : Store) (call : Call) : Outcome Answer :=
  (s.perform call.client call.now call.fresh call.command).1

def after (s : Store) (call : Call) : Store :=
  (s.perform call.client call.now call.fresh call.command).2

def run (s : Store) (calls : List Call) : Store := calls.foldl after s

def FreshIds (calls : List Call) : Prop :=
  (calls.flatMap Call.messageIds).Nodup ∧ (calls.flatMap Call.claimIds).Nodup

def Timed (calls : List Call) : Prop := calls.Pairwise (·.now ≤ ·.now)

instance (calls : List Call) : Decidable (FreshIds calls) := inferInstanceAs (Decidable (_ ∧ _))

instance (calls : List Call) : Decidable (Timed calls) := inferInstanceAs (Decidable (List.Pairwise _ _))

def FreshFor (s : Store) (calls : List Call) : Prop :=
  (s.messages.map (·.id) ++ calls.flatMap Call.messageIds).Nodup ∧
    (s.holds.map (·.id) ++ calls.flatMap Call.claimIds).Nodup

/-! ### One call -/

def handed (c : ClaimId) (now : Nat) (m : Stored) : Message :=
  { id := m.id, body := m.body, claim := some c, age := ⟨now - m.created⟩, ttl := m.ttl }

theorem handedIds (c : ClaimId) (now : Nat) (taken : List Stored) :
    (taken.map (handed c now)).map (·.id) = taken.map (·.id) := List.map_map

def Call.batch (call : Call) (drafts : List Draft) : List (MessageId × Draft) :=
  drafts.zipIdx.map fun (d, i) => (call.fresh.message i, d)

inductive Effect (s : Store) (call : Call) : Command → Outcome Answer → Store → Prop
  | read {command answer} (reads : command.reads = true) : Effect s call command answer s
  | refused {command e} (checked : command.checked = true) : Effect s call command (.error e) s
  | posted {drafts t} (valid : Draft.validateAll drafts = .ok ()) (well : WellFormed t)
      (messages : t.messages = (s.purge call.now).messages ++
        queued call.client call.now s.nextSeq (call.batch drafts))
      (holds : t.holds = (s.purge call.now).holds)
      (next : t.nextSeq = s.nextSeq + (call.batch drafts).length) :
      Effect s call (.post drafts) (.ok (.posted ((call.batch drafts).map (·.1)))) t
  | deleted {id} : Effect s call (.delete id) (.ok .done) ((s.purge call.now).kept (·.id != id))
  | deletedMany {ids} :
      Effect s call (.deleteMany ids) (.ok .done) ((s.purge call.now).kept (!ids.contains ·.id))
  | deletedHeld {id c} (held : ∀ m ∈ (s.purge call.now).messages, m.id = id → m.claim = some c) :
      Effect s call (.deleteByClaim id c) (.ok .done) ((s.purge call.now).kept (·.id != id))
  | notDeleted {id c e m} (member : m ∈ (s.purge call.now).messages) (named : m.id = id)
      (other : m.claim ≠ some c) : Effect s call (.deleteByClaim id c) (.error e) (s.purge call.now)
  | claimed {request} (valid : request.validate = .ok ())
      (some : (s.purge call.now).chosen request.limit ≠ [])
      (unused : call.fresh.claim ∉ (s.purge call.now).holds.map (·.id)) :
      Effect s call (.claim request)
        (.ok (.messages (((s.purge call.now).chosen request.limit).map (handed call.fresh.claim call.now))))
        ((s.purge call.now).granted call.now call.fresh.claim request
          ((s.purge call.now).chosen request.limit))
  | nothing {request} (none : (s.purge call.now).chosen request.limit = []) :
      Effect s call (.claim request) (.ok (.messages [])) (s.purge call.now)
  | renewed {c ttl grace h} (member : h ∈ (s.purge call.now).holds) (named : h.id = c) :
      Effect s call (.renew c ttl grace) (.ok (.renewed true))
        ((s.purge call.now).renewed { h with ttl, grace, created := call.now })
  | lapsed {c ttl grace} (absent : ∀ h ∈ (s.purge call.now).holds, h.id ≠ c) :
      Effect s call (.renew c ttl grace) (.ok (.renewed false)) (s.purge call.now)
  | released {c} :
      Effect s call (.release c) (.ok .done) ((s.purge call.now).dismissed (· == c))

variable {s : Store} {call : Call}

theorem batchIds (call : Call) (drafts : List Draft) :
    (call.batch drafts).map (·.1) = (List.range drafts.length).map call.fresh.message := by
  rw [Call.batch, List.map_map, List.range_eq_range', ← List.zipIdx_map_snd 0 drafts, List.map_map]
  rfl

theorem batchDrafts (call : Call) (drafts : List Draft) : (call.batch drafts).map (·.2) = drafts := by
  rw [Call.batch, List.map_map]
  exact List.zipIdx_map_fst 0 drafts

theorem batchZip (call : Call) (drafts : List Draft) :
    ((call.batch drafts).map (·.1)).zip drafts = call.batch drafts :=
  (List.zip_of_prod rfl (batchDrafts call drafts)).symm

theorem messageIdsOfPost {drafts : List Draft} (posts : call.command = .post drafts) :
    call.messageIds = (call.batch drafts).map (·.1) := by
  rw [batchIds, Call.messageIds, posts]

theorem claimIdsOfClaim {request : ClaimRequest} (claims : call.command = .claim request) :
    call.claimIds = [call.fresh.claim] := by
  rw [Call.claimIds, claims]

theorem WellFormed.purgeIds (w : WellFormed s) {now : Nat} :
    ((s.purge now).messages.map (·.id)).Sublist (s.messages.map (·.id)) := by
  rw [w.purgeMessages, List.map_map]
  exact List.filter_sublist.map _

theorem WellFormed.purgeClaims (w : WellFormed s) {now : Nat} :
    ((s.purge now).holds.map (·.id)).Sublist (s.holds.map (·.id)) := by
  rw [w.purgeHolds]
  exact List.filter_sublist.map _

theorem WellFormed.purgeUnused (w : WellFormed s) {c : ClaimId} (unused : c ∉ s.holds.map (·.id)) (now : Nat) :
    c ∉ (s.purge now).holds.map (·.id) := fun old => unused (w.purgeClaims.subset old)

theorem WellFormed.purgeHolder (w : WellFormed s) {now : Nat} {m : Stored}
    (member : m ∈ (s.purge now).messages) : (s.purge now).holder? m now = m.claim := by
  obtain ⟨n, hn, lives, rfl⟩ := w.purgeMember.mp member
  exact holderAfterPurge w (Nat.le_refl now) hn lives

theorem gotPurged (w : WellFormed s) {now : Nat} {id : MessageId} {seen : Message} :
    s.get now id = some seen ↔
      ∃ m ∈ (s.purge now).messages, m.id = id ∧ (s.purge now).view m now = seen := by
  rw [← getAfterPurge w, getIff (w.purged now).keyed]
  refine exists_congr fun m => and_congr_right fun member => and_congr_right fun _ => and_iff_right ?_
  obtain ⟨n, _, lives, rfl⟩ := w.purgeMember.mp member
  exact lives

theorem grantedView (w : WellFormed s) {now later : Nat} {request : ClaimRequest}
    (lasts : later < now + request.hold.nanos) {taken : List Stored} (part : taken.Sublist s.messages)
    (free : ∀ m ∈ taken, m.claim = none) {c : ClaimId} (fresh : c ∉ s.holds.map (·.id)) :
    (s.granted now c request taken).viewAll (taken.map (·.id)) later = taken.map (handed c later) := by
  have well := w.granted now request part free fresh
  rw [viewAllEq, List.filterMap_map, ← List.filterMap_eq_map]
  refine List.filterMap_congr fun m member => ?_
  let t := granting c (now + request.hold.nanos) (taken.map (·.seq)) m
  have listed : m.seq ∈ taken.map (·.seq) := List.mem_map_of_mem member
  have same : t = m.takenBy c (now + request.hold.nanos) := if_pos listed
  have inside : t ∈ (s.granted now c request taken).messages := List.mem_map_of_mem (part.subset member)
  have lives : later < t.expires := by
    rw [same]
    exact Nat.lt_of_lt_of_le lasts (Nat.le_max_right _ _)
  have found : (s.granted now c request taken).lookup m.id later = some t :=
    well.keyed.lookupIff.mpr ⟨inside, grantingId _ _ _ _, lives⟩
  have held : (s.granted now c request taken).holder? t later = some c := by
    refine (well.holder inside).mpr ⟨by rw [same]; rfl, _, List.mem_append_right _ (List.mem_singleton.mpr rfl), rfl, ?_⟩
    simpa only [Hold.until, ClaimRequest.hold, Duration.nanos_add, Nat.add_assoc] using lasts
  simp only [Function.comp_apply, get, found, Option.map_some, view, held]
  rw [same]
  rfl

theorem postEffect (w : WellFormed s) {drafts : List Draft}
    (distinct : ((call.batch drafts).map (·.1)).Nodup)
    (fresh : ∀ id ∈ (call.batch drafts).map (·.1), id ∉ s.messages.map (·.id)) :
    Effect s call (.post drafts) ((s.post call.client call.now call.fresh.message drafts).1.map .posted)
      (s.post call.client call.now call.fresh.message drafts).2 := by
  unfold post
  cases valid : Draft.validateAll drafts with
  | error e => exact .refused rfl
  | ok _ =>
    obtain ⟨well, messages, holds, next⟩ := (w.purged call.now).appendEach call.client call.now
      distinct fun id member => fun old => fresh id member (w.purgeIds.subset old)
    rw [w.purgeNext] at messages next
    exact .posted valid well messages holds next

theorem deleteByClaimAnswer (w : WellFormed s) (now : Nat) (id : MessageId) (c : ClaimId) :
    s.deleteByClaim now id c =
      match s.get now id with
      | none => (.ok (), s.purge now)
      | some seen =>
        match seen.claim with
        | none => (.error (.notClaimed id.text), s.purge now)
        | some holder =>
          if holder = c then (.ok (), (s.purge now).kept (·.id != id))
          else (.error (.claimMismatch id.text c.text (some holder.text)), s.purge now) := by
  have p := w.purged now
  unfold deleteByClaim
  dsimp only
  cases found : (s.purge now).seqOf? id with
  | none =>
    have absent := p.keyed.seqOfNone.mp found
    rw [← getAfterPurge w, getAbsent p.keyed absent]
  | some seq =>
    obtain ⟨m, member, rfl, rfl⟩ := p.keyed.seqOfSource found
    have erased : (s.purge now).remove m.seq = (s.purge now).kept (·.id != m.id) := by
      rw [← p.erase, Store.erase, found]
    have got : s.get now m.id = some ((s.purge now).view m now) := (gotPurged w).mpr ⟨m, member, rfl, rfl⟩
    have shown : ((s.purge now).view m now).claim = m.claim := w.purgeHolder member
    have held : (((s.purge now).messageAt? m.seq).bind fun m => (s.purge now).holder? m now) = m.claim := by
      rw [p.keyed.messageAt member, Option.bind_some, w.purgeHolder member]
    cases under : m.claim with
    | none => simp only [got, shown, held, under]
    | some holder => simp only [got, shown, held, under, erased]

theorem deleteByClaimEffect (w : WellFormed s) (id : MessageId) (c : ClaimId) :
    Effect s call (.deleteByClaim id c) ((s.deleteByClaim call.now id c).1.map fun _ => .done)
      (s.deleteByClaim call.now id c).2 := by
  have p := w.purged call.now
  rw [deleteByClaimAnswer w]
  cases got : s.get call.now id with
  | none =>
    have absent : ∀ m ∈ (s.purge call.now).messages, m.id ≠ id := fun m member named => by
      rw [(gotPurged w).mpr ⟨m, member, named, rfl⟩] at got
      contradiction
    have same : (s.purge call.now).kept (·.id != id) = s.purge call.now :=
      (keptCongr fun m member => bne_iff_ne.mpr (absent m member)).trans (keptAll p)
    have effect : Effect s call (.deleteByClaim id c) (.ok .done) _ :=
      .deletedHeld fun m member named => absurd named (absent m member)
    rwa [same] at effect
  | some seen =>
    obtain ⟨m, member, rfl, rfl⟩ := (gotPurged w).mp got
    have held : ((s.purge call.now).view m call.now).claim = m.claim := w.purgeHolder member
    dsimp only
    rw [held]
    cases under : m.claim with
    | none => exact .notDeleted member rfl (by simp [under])
    | some holder =>
      by_cases own : holder = c
      · subst own
        simp only [if_pos]
        exact .deletedHeld fun n hn named => by rw [p.keyed.sameId hn member named, under]
      · simp only [if_neg own]
        exact .notDeleted member rfl (by simpa [under] using own)

theorem claimAnswer (w : WellFormed s) (now : Nat) {request : ClaimRequest} (valid : request.validate = .ok ())
    {c : ClaimId} (fresh : c ∉ s.holds.map (·.id)) :
    let taken := (s.purge now).chosen request.limit
    s.claim now c request = (.ok (taken.map (handed c now)),
      if taken = [] then s.purge now else (s.purge now).granted now c request taken) := by
  have p := w.purged now
  have unused := w.purgeUnused fresh now
  unfold claim
  rw [valid]
  dsimp only
  rw [← List.map_take]
  by_cases none : (s.purge now).chosen request.limit = []
  · have empty : ((s.purge now).messages.filter (·.claim.isNone)).take request.limit = [] := none
    rw [empty, none]
    rfl
  · have some : ((s.purge now).messages.filter (·.claim.isNone)).take request.limit =
      (s.purge now).chosen request.limit := rfl
    rw [some, if_neg (by simpa using none), if_neg none, p.grant now request (chosenPart _ _) unused]
    dsimp only
    have lasts := Nat.lt_add_of_pos_right (n := now) (ClaimRequest.holdPositive valid)
    rw [grantedView p lasts (chosenPart _ _) (fun m member => chosenFree member) unused]

theorem claimEffect (w : WellFormed s) (request : ClaimRequest)
    (fresh : call.fresh.claim ∉ s.holds.map (·.id)) :
    Effect s call (.claim request) ((s.claim call.now call.fresh.claim request).1.map .messages)
      (s.claim call.now call.fresh.claim request).2 := by
  have unused := w.purgeUnused fresh call.now
  cases valid : request.validate with
  | error e =>
    unfold claim
    rw [valid]
    exact .refused rfl
  | ok _ =>
    rw [claimAnswer w call.now valid fresh]
    by_cases none : (s.purge call.now).chosen request.limit = []
    · rw [if_pos none, none]
      exact .nothing none
    · rw [if_neg none]
      exact .claimed valid none unused

theorem renewEffect (w : WellFormed s) (c : ClaimId) (ttl grace : Duration) :
    Effect s call (.renew c ttl grace) ((s.renew call.now c ttl grace).1.map .renewed)
      (s.renew call.now c ttl grace).2 := by
  unfold renew
  cases (ClaimRequest.new ttl grace).validate with
  | error e => exact .refused rfl
  | ok _ =>
    dsimp only
    cases found : (s.purge call.now).hold? c with
    | none => exact .lapsed (holdNone.mp found)
    | some h =>
      obtain ⟨member, named⟩ := holdSource found
      dsimp only
      rw [(w.purged call.now).extend (h := { h with ttl, grace, created := call.now }) member rfl rfl]
      exact .renewed member named

theorem FreshFor.unheld {calls : List Call} {c : ClaimId} (fresh : FreshFor s (call :: calls))
    (named : c ∈ call.claimIds) : c ∉ s.holds.map (·.id) := fun old =>
  (List.nodup_append.mp fresh.2).2.2 c old c (List.mem_flatMap.mpr ⟨call, List.mem_cons_self, named⟩) rfl

theorem performed (w : WellFormed s) (fresh : FreshFor s [call]) :
    Effect s call call.command (s.answer call) (s.after call) := by
  obtain ⟨client, now, ids, command⟩ := call
  have p := w.purged now
  cases command with
  | streamPage => exact .read rfl
  | get => exact .read rfl
  | list => exact .read rfl
  | getClaim => exact .read rfl
  | post drafts =>
    have given := fresh.1
    simp only [List.flatMap_singleton] at given
    rw [messageIdsOfPost rfl] at given
    obtain ⟨_, distinct, apart⟩ := List.nodup_append.mp given
    exact postEffect w distinct fun id member old => apart id old id member rfl
  | delete id =>
    have same : s.delete now id = (s.purge now).kept (·.id != id) := p.erase id
    simp only [answer, after, perform, same]
    exact .deleted
  | deleteMany many =>
    have same : s.deleteMany now many = (s.purge now).kept (!many.contains ·.id) := p.eraseEach many
    simp only [answer, after, perform, same]
    exact .deletedMany
  | deleteByClaim id c => exact deleteByClaimEffect w id c
  | claim request => exact claimEffect w request (fresh.unheld (List.mem_singleton.mpr rfl))
  | renew c ttl grace => exact renewEffect w c ttl grace
  | release c =>
    have same : s.release now c = (s.purge now).dismissed (· == c) := p.free c
    simp only [answer, after, perform, same]
    exact .released

theorem answered (w : WellFormed s) (fresh : FreshFor s [call]) {command : Command} {given : Outcome Answer}
    (own : call.command = command) (ok : s.answer call = given) :
    Effect s call command given (s.after call) := by
  rw [← own, ← ok]
  exact performed w fresh

theorem Effect.wellFormed {command : Command} {answer : Outcome Answer} {t : Store} (w : WellFormed s)
    (effect : Effect s call command answer t) : WellFormed t := by
  have p := w.purged call.now
  cases effect with
  | read | refused => exact w
  | posted _ well => exact well
  | deleted | deletedMany | deletedHeld => exact p.kept _
  | notDeleted | nothing | lapsed => exact p
  | claimed _ _ unused => exact p.granted _ _ (chosenPart _ _) (fun _ member => chosenFree member) unused
  | renewed member => exact p.renewed member rfl rfl
  | released => exact p.dismissed _

theorem queuedIds (author : ClientId) (now seq : Nat) (batch : List (MessageId × Draft)) :
    (queued author now seq batch).map (·.id) = batch.map (·.1) := by
  induction batch generalizing seq with
  | nil => rfl
  | cons entry rest ih => simp only [queued, enqueued, List.map_cons, ih]

theorem queuedUnused {drafts : List Draft} {id : MessageId} (posts : call.command = .post drafts)
    (unused : id ∉ call.messageIds) (seq : Nat) :
    ∀ m ∈ queued call.client call.now seq (call.batch drafts), m.id ≠ id := by
  rw [messageIdsOfPost posts, ← queuedIds call.client call.now seq] at unused
  exact fun m member same => unused (List.mem_map.mpr ⟨m, member, same⟩)

theorem Effect.ids {command : Command} {answer : Outcome Answer} {t : Store} (w : WellFormed s)
    (effect : Effect s call command answer t) (posts : call.command = command) :
    ∀ id ∈ t.messages.map (·.id), id ∈ s.messages.map (·.id) ∨ id ∈ call.messageIds := by
  have old : ∀ id ∈ (s.purge call.now).messages.map (·.id), id ∈ s.messages.map (·.id) ∨
      id ∈ call.messageIds := fun id member => .inl (w.purgeIds.subset member)
  cases effect with
  | read | refused => exact fun id member => .inl member
  | @posted drafts _ _ _ messages =>
    intro id member
    rw [messages, List.map_append, queuedIds, ← messageIdsOfPost posts] at member
    rcases List.mem_append.mp member with before | new
    · exact old id before
    · exact .inr new
  | deleted | deletedMany | deletedHeld =>
    exact fun id member => old id ((List.filter_sublist.map _).subset member)
  | notDeleted | nothing | lapsed => exact old
  | claimed =>
    intro id member
    simp only [Store.granted, List.map_map, Function.comp_def, grantingId] at member
    exact old id member
  | renewed =>
    intro id member
    simp only [Store.renewed, List.map_map, Function.comp_def, renewingSame] at member
    exact old id member
  | released =>
    intro id member
    simp only [Store.dismissed, rebuilt, List.map_map, Function.comp_def, Stored.unclaimed] at member
    exact old id member

theorem Effect.claims {command : Command} {answer : Outcome Answer} {t : Store} (w : WellFormed s)
    (effect : Effect s call command answer t) (claims : call.command = command) :
    ∀ c ∈ t.holds.map (·.id), c ∈ s.holds.map (·.id) ∨ c ∈ call.claimIds := by
  have old : ∀ c ∈ (s.purge call.now).holds.map (·.id), c ∈ s.holds.map (·.id) ∨ c ∈ call.claimIds :=
    fun c member => .inl (w.purgeClaims.subset member)
  cases effect with
  | read | refused => exact fun c member => .inl member
  | posted _ _ _ holds => exact holds ▸ old
  | deleted | deletedMany | deletedHeld =>
    intro c member
    simp only [Store.kept, rebuilt, List.map_map, Function.comp_def, listing] at member
    exact old c member
  | notDeleted | nothing | lapsed => exact old
  | claimed =>
    intro c member
    simp only [Store.granted, List.map_append] at member
    rcases List.mem_append.mp member with before | new
    · exact old c before
    · rw [claimIdsOfClaim claims]
      exact .inr new
  | renewed =>
    rw [renewedClaims]
    exact old
  | released =>
    intro c member
    simp only [Store.dismissed, rebuilt, List.map_map, Function.comp_def, listing] at member
    exact old c ((List.filter_sublist.map _).subset member)

/-! ### Runs -/

variable {calls : List Call}

theorem FreshFor.earlier {before later : List Call} (fresh : FreshFor s (before ++ later)) :
    FreshFor s before := by
  simp only [FreshFor, List.flatMap_append] at fresh ⊢
  exact ⟨fresh.1.sublist (List.append_sublist_append_left _ |>.mpr (List.sublist_append_left _ _)),
    fresh.2.sublist (List.append_sublist_append_left _ |>.mpr (List.sublist_append_left _ _))⟩

theorem FreshFor.head (fresh : FreshFor s (call :: calls)) : FreshFor s [call] :=
  (show FreshFor s ([call] ++ calls) from fresh).earlier

theorem FreshFor.tail (w : WellFormed s) (fresh : FreshFor s (call :: calls)) :
    FreshFor (s.after call) calls := by
  have effect := performed w fresh.head
  have well := effect.wellFormed w
  simp only [FreshFor, List.flatMap_cons, ← List.append_assoc] at fresh ⊢
  obtain ⟨_, laterIds, apartIds⟩ := List.nodup_append.mp fresh.1
  obtain ⟨_, laterClaims, apartClaims⟩ := List.nodup_append.mp fresh.2
  exact ⟨List.nodup_append.mpr ⟨well.ids, laterIds, fun id member other later =>
      apartIds id (List.mem_append.mpr (effect.ids w rfl id member)) other later⟩,
    List.nodup_append.mpr ⟨well.claims, laterClaims, fun c member other later =>
      apartClaims c (List.mem_append.mpr (effect.claims w rfl c member)) other later⟩⟩

theorem storedNotPosted (fresh : FreshFor s calls) {m : Stored}
    (member : m ∈ s.messages) : m.id ∉ calls.flatMap Call.messageIds := fun posted =>
  (List.nodup_append.mp fresh.1).2.2 m.id (List.mem_map_of_mem member) m.id posted rfl

theorem afterWellFormed (w : WellFormed s) (fresh : FreshFor s [call]) : WellFormed (s.after call) :=
  (performed w fresh).wellFormed w

theorem runWellFormed (w : WellFormed s) (fresh : FreshFor s calls) : WellFormed (s.run calls) := by
  induction calls generalizing s with
  | nil => exact w
  | cons call calls ih => exact ih (afterWellFormed w fresh.head) (fresh.tail w)

theorem runIds (w : WellFormed s) (fresh : FreshFor s calls) : ∀ id ∈ (s.run calls).messages.map (·.id),
    id ∈ s.messages.map (·.id) ∨ id ∈ calls.flatMap Call.messageIds := by
  induction calls generalizing s with
  | nil => exact fun id member => .inl member
  | cons call calls ih =>
    intro id member
    rw [List.flatMap_cons, List.mem_append]
    rcases ih (afterWellFormed w fresh.head) (fresh.tail w) id member with before | later
    · exact ((performed w fresh.head).ids w rfl id before).imp_right .inl
    · exact .inr (.inr later)

theorem runClaims (w : WellFormed s) (fresh : FreshFor s calls) : ∀ c ∈ (s.run calls).holds.map (·.id),
    c ∈ s.holds.map (·.id) ∨ c ∈ calls.flatMap Call.claimIds := by
  induction calls generalizing s with
  | nil => exact fun c member => .inl member
  | cons call calls ih =>
    intro c member
    rw [List.flatMap_cons, List.mem_append]
    rcases ih (afterWellFormed w fresh.head) (fresh.tail w) c member with before | later
    · exact ((performed w fresh.head).claims w rfl c before).imp_right .inl
    · exact .inr (.inr later)

theorem runAppend (s : Store) (before later : List Call) :
    s.run (before ++ later) = (s.run before).run later :=
  List.foldl_append

theorem FreshFor.later {before later : List Call} (w : WellFormed s)
    (fresh : FreshFor s (before ++ later)) : FreshFor (s.run before) later := by
  induction before generalizing s with
  | nil => exact fresh
  | cons call before ih => exact ih (afterWellFormed w fresh.head) (fresh.tail w)

theorem FreshIds.forEmpty (fresh : FreshIds calls) : FreshFor empty calls := fresh

theorem reachedWellFormed (fresh : FreshIds calls) : WellFormed (empty.run calls) :=
  runWellFormed emptyWellFormed fresh.forEmpty

theorem reachedIds (fresh : FreshIds calls) {id : MessageId} (stored : id ∈ (empty.run calls).messages.map (·.id)) :
    id ∈ calls.flatMap Call.messageIds :=
  (runIds emptyWellFormed fresh.forEmpty id stored).resolve_left (List.not_mem_nil)

theorem reachedClaims (fresh : FreshIds calls) {c : ClaimId} (stored : c ∈ (empty.run calls).holds.map (·.id)) :
    c ∈ calls.flatMap Call.claimIds :=
  (runClaims emptyWellFormed fresh.forEmpty c stored).resolve_left (List.not_mem_nil)

/-! ### Histories -/

structure Event where
  before : Store
  call : Call

def Event.answer (e : Event) : Outcome Answer := e.before.answer e.call

def history (s : Store) : List Call → List Event
  | [] => []
  | call :: calls => ⟨s, call⟩ :: (s.after call).history calls

theorem historyAppend (s : Store) (before later : List Call) :
    s.history (before ++ later) = s.history before ++ (s.run before).history later := by
  induction before generalizing s with
  | nil => rfl
  | cons call before ih => exact congrArg (Event.mk s call :: ·) (ih (s.after call))

end Store
end CloudClient.Queue
