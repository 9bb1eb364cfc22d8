import CloudClient.Proofs.Queue.Run
/-! A message that a claim has taken comes to another claim only after the first one was released or its
time ran out. No operation checks this: it follows from what the claim table says of the first claim
from call to call, `Bound`, until a purge finds it lapsed. -/
namespace CloudClient.Queue.Store

def claimEnd (c : ClaimId) (now : Nat) : Command → Outcome Answer → Option Nat
  | .claim request, .ok (.messages shown) =>
    if ∃ m ∈ shown, m.claim = some c then some (now + request.ttl.nanos + request.grace.nanos) else none
  | .renew other ttl grace, .ok (.renewed true) =>
    if other = c then some (now + ttl.nanos + grace.nanos) else none
  | _, _ => none

def Event.claimEnd (c : ClaimId) (e : Event) : Option Nat :=
  Store.claimEnd c e.call.now e.call.command e.answer

def lastEnd (c : ClaimId) (events : List Event) : Option Nat :=
  (events.filterMap (Event.claimEnd c)).getLast?

/-- The claim still holds the message and lasts until `ends`, or it is gone and that was before `limit`. -/
inductive Bound (c : ClaimId) (id : MessageId) (limit ends : Nat) (s : Store) : Prop
  | held {h} (member : h ∈ s.holds) (named : h.id = c) (lasts : h.until = ends)
      (under : ∀ m ∈ s.messages, m.id = id → m.claim = some c)
  | ended (gone : ∀ h ∈ s.holds, h.id ≠ c) (past : ends ≤ limit)

variable {s t : Store} {call : Call} {c : ClaimId} {id : MessageId} {limit ends : Nat}

theorem Bound.purge (w : WellFormed s) {now : Nat} (order : now ≤ limit)
    (bound : Bound c id limit ends s) : Bound c id limit ends (s.purge now) := by
  cases bound with
  | ended gone past => exact .ended (fun h member => gone h (w.purgeHold.mp member).1) past
  | @held h member named lasts under =>
    by_cases lapsed : h.until ≤ now
    · refine .ended (fun g hg same => ?_) (lasts ▸ Nat.le_trans lapsed order)
      obtain ⟨hg, lives⟩ := w.purgeHold.mp hg
      rw [w.sameClaim hg member (same.trans named.symm)] at lives
      exact absurd lives (Nat.not_lt.mpr lapsed)
    · have lives : now < h.until := Nat.lt_of_not_le lapsed
      refine .held (w.purgeHold.mpr ⟨member, lives⟩) named lasts fun m hm same => ?_
      obtain ⟨n, hn, _, rfl⟩ := w.purgeMember.mp hm
      exact (settledIff w hn).mpr ⟨under n hn same, h, member, named, lives⟩

theorem Bound.posted (bound : Bound c id limit ends s) {new : List Stored}
    (messages : t.messages = s.messages ++ new) (holds : t.holds = s.holds)
    (unused : ∀ m ∈ new, m.id ≠ id) : Bound c id limit ends t := by
  cases bound with
  | held member named lasts under =>
    refine .held (holds ▸ member) named lasts fun m hm same => ?_
    rw [messages] at hm
    rcases List.mem_append.mp hm with old | appended
    · exact under m old same
    · exact absurd same (unused m appended)
  | ended gone past => exact .ended (holds ▸ gone) past

theorem Bound.kept (bound : Bound c id limit ends s) (keep : Stored → Bool) :
    Bound c id limit ends (s.kept keep) := by
  cases bound with
  | held member named lasts under =>
    exact .held (List.mem_map_of_mem member) named lasts fun m hm =>
      under m (List.mem_filter.mp hm).1
  | ended gone past =>
    refine .ended (fun h member => ?_) past
    obtain ⟨g, hg, rfl⟩ := List.mem_map.mp member
    exact gone g hg

theorem Bound.dismissed (bound : Bound c id limit ends s) {other : ClaimId} (differ : other ≠ c) :
    Bound c id limit ends (s.dismissed (· == other)) := by
  cases bound with
  | @held h member named lasts under =>
    have stays : h ∈ s.holds.filter (fun g => !(g.id == other)) :=
      List.mem_filter.mpr ⟨member, by simpa [named] using differ.symm⟩
    refine .held (List.mem_map_of_mem stays) named lasts fun m hm same => ?_
    obtain ⟨n, hn, rfl⟩ := List.mem_map.mp hm
    simp only [Stored.unclaimed, under n hn same, Option.filter_some]
    simpa using differ.symm
  | ended gone past =>
    refine .ended (fun h member => ?_) past
    obtain ⟨g, hg, rfl⟩ := List.mem_map.mp member
    exact gone g (List.mem_filter.mp hg).1

theorem Bound.granted (bound : Bound c id limit ends s) (k : Keyed s) {now : Nat} {new : ClaimId}
    (differ : new ≠ c) (request : ClaimRequest) {taken : List Stored} (part : taken.Sublist s.messages)
    (free : ∀ m ∈ taken, m.claim = none) :
    Bound c id limit ends (s.granted now new request taken) := by
  cases bound with
  | held member named lasts under =>
    refine .held (List.mem_append_left _ member) named lasts fun m hm same => ?_
    obtain ⟨n, hn, rfl⟩ := List.mem_map.mp hm
    rw [grantingId] at same
    have holder := under n hn same
    rw [grantingClaim, if_neg, holder]
    intro listed
    obtain ⟨x, hx, sameSeq⟩ := List.mem_map.mp listed
    rw [k.sameSeq (part.subset hx) hn sameSeq] at hx
    simp [free n hx] at holder
  | ended gone past =>
    refine .ended (fun h member => ?_) past
    rcases List.mem_append.mp member with old | made
    · exact gone h old
    · cases List.mem_singleton.mp made
      exact differ

theorem Bound.renewedOther (bound : Bound c id limit ends s) {h : Hold} (differ : h.id ≠ c) :
    Bound c id limit ends (s.renewed h) := by
  cases bound with
  | @held g member named lasts under =>
    refine .held (List.mem_map.mpr ⟨g, member, if_neg (named ▸ differ.symm)⟩) named lasts
      fun m hm same => ?_
    obtain ⟨n, hn, rfl⟩ := List.mem_map.mp hm
    obtain ⟨sameId, _, sameClaim, _⟩ := renewingSame h n
    rw [sameClaim]
    exact under n hn (sameId ▸ same)
  | ended gone past =>
    refine .ended (fun g member => ?_) past
    obtain ⟨f, hf, rfl⟩ := List.mem_map.mp member
    split
    · exact differ
    · exact gone f hf

theorem Bound.renewed (bound : Bound c id limit ends s) {g h : Hold} (member : g ∈ s.holds)
    (named : g.id = c) (sameId : h.id = g.id) : Bound c id limit h.until (s.renewed h) := by
  cases bound with
  | held _ _ _ under =>
    refine .held (List.mem_map.mpr ⟨g, member, if_pos sameId.symm⟩) (sameId.trans named) rfl
      fun m hm same => ?_
    obtain ⟨n, hn, rfl⟩ := List.mem_map.mp hm
    obtain ⟨ids, _, claims, _⟩ := renewingSame h n
    rw [claims]
    exact under n hn (ids ▸ same)
  | ended gone => exact absurd named (gone g member)

theorem claimEndOfReads {command : Command} {answer : Outcome Answer} {now : Nat}
    (reads : command.reads = true) : claimEnd c now command answer = none := by
  cases command <;> first | rfl | contradiction

theorem claimEndRefused {command : Command} {e : Error} {now : Nat} :
    claimEnd c now command (.error e) = none := by
  cases command <;> rfl

theorem claimEndByOther {d : ClaimId} (differ : d ≠ c) {now : Nat} {request : ClaimRequest}
    {taken : List Stored} :
    claimEnd c now (.claim request) (.ok (.messages (taken.map (handed d now)))) = none := by
  refine if_neg ?_
  simp [handed, differ]

theorem Effect.bound (w : WellFormed s) {command : Command} {answer : Outcome Answer}
    (effect : Effect s call command answer t) (own : call.command = command)
    (unreleased : command ≠ .release c) (other : c ∉ call.claimIds) (unused : id ∉ call.messageIds)
    (order : call.now ≤ limit) (bound : Bound c id limit ends s) :
    Bound c id limit ((claimEnd c call.now command answer).getD ends) t := by
  have p := w.purged call.now
  have purged := bound.purge w order
  cases effect with
  | read reads =>
    rw [claimEndOfReads reads]
    exact bound
  | refused =>
    rw [claimEndRefused]
    exact bound
  | posted _ _ messages holds =>
    exact purged.posted messages holds (queuedUnused own unused s.nextSeq)
  | deleted | deletedMany | deletedHeld => exact purged.kept _
  | notDeleted | nothing | lapsed => exact purged
  | @claimed request =>
    have differ : call.fresh.claim ≠ c := fun same => by
      simp [claimIdsOfClaim own, same] at other
    rw [claimEndByOther differ]
    exact purged.granted p.keyed differ request (chosenPart _ _) fun m member => chosenFree member
  | @renewed d ttl grace h member named =>
    by_cases same : d = c
    · simp only [claimEnd, if_pos same, Option.getD_some]
      exact purged.renewed (h := { h with ttl, grace, created := call.now }) member
        (named.trans same) rfl
    · simp only [claimEnd, if_neg same, Option.getD_none]
      exact purged.renewedOther (named ▸ same)
  | released => exact purged.dismissed fun same => unreleased (congrArg Command.release same)

theorem lastEndCons (e : Event) (events : List Event) :
    (lastEnd c (e :: events)).getD ends = (lastEnd c events).getD ((e.claimEnd c).getD ends) := by
  unfold lastEnd
  cases given : e.claimEnd c with
  | none => rw [List.filterMap_cons_none given, Option.getD_none]
  | some time => rw [List.filterMap_cons_some given, List.getLast?_cons, Option.getD_some, Option.getD_some]

theorem boundRun {calls : List Call} (w : WellFormed s) (fresh : FreshFor s calls)
    (unreleased : ∀ call ∈ calls, call.command ≠ .release c)
    (other : c ∉ calls.flatMap Call.claimIds) (unused : id ∉ calls.flatMap Call.messageIds)
    (order : ∀ call ∈ calls, call.now ≤ limit) (bound : Bound c id limit ends s) :
    Bound c id limit ((lastEnd c (s.history calls)).getD ends) (s.run calls) := by
  induction calls generalizing s ends with
  | nil => exact bound
  | cons call calls ih =>
    obtain ⟨unreleased, unreleasedLater⟩ := List.forall_mem_cons.mp unreleased
    obtain ⟨order, orderLater⟩ := List.forall_mem_cons.mp order
    rw [List.flatMap_cons, List.mem_append, not_or] at other unused
    have first := (performed w fresh.head).bound w rfl unreleased other.1 unused.1 order bound
    have later := ih (afterWellFormed w fresh.head) (fresh.tail w) unreleasedLater other.2 unused.2
      orderLater first
    rw [history, lastEndCons]
    exact later

theorem shownByClaim {request : ClaimRequest} {shown : List Message} {m : Message}
    (effect : Effect s call (.claim request) (.ok (.messages shown)) t) (taken : m ∈ shown) :
    m.claim = some call.fresh.claim ∧ (∃ n ∈ (s.purge call.now).chosen request.limit, n.id = m.id) ∧
      t = (s.purge call.now).granted call.now call.fresh.claim request
        ((s.purge call.now).chosen request.limit) := by
  cases effect with
  | read reads => contradiction
  | nothing => contradiction
  | claimed =>
    obtain ⟨n, member, rfl⟩ := List.mem_map.mp taken
    exact ⟨rfl, ⟨n, member, rfl⟩, rfl⟩

theorem boundByClaim (w : WellFormed s) {request : ClaimRequest} {shown : List Message} {m : Message}
    (effect : Effect s call (.claim request) (.ok (.messages shown)) t) (taken : m ∈ shown) :
    Bound call.fresh.claim m.id limit (call.now + request.ttl.nanos + request.grace.nanos) t := by
  obtain ⟨_, ⟨n, member, named⟩, rfl⟩ := shownByClaim effect taken
  refine .held (List.mem_append_right _ (List.mem_singleton.mpr rfl)) rfl rfl fun x hx same => ?_
  obtain ⟨y, hy, rfl⟩ := List.mem_map.mp hx
  rw [grantingId, ← named] at same
  rw [(w.purged call.now).keyed.sameId hy ((chosenPart _ _).subset member) same, grantingClaim]
  exact if_pos (List.mem_map_of_mem member)

theorem lastEndMade {e : Event} (made : e.claimEnd c = some ends) (earlier later : List Event) :
    lastEnd c (earlier ++ e :: later) = some ((lastEnd c later).getD ends) := by
  unfold lastEnd
  rw [List.filterMap_append, List.filterMap_cons_some made, List.getLast?_append, List.getLast?_cons,
    Option.some_or]

theorem claimNotMade {calls : List Call} {request : ClaimRequest} (fresh : FreshFor s (call :: calls))
    (claims : call.command = .claim request) : call.fresh.claim ∉ calls.flatMap Call.claimIds := by
  have distinct := (List.nodup_append.mp fresh.2).2.1
  rw [List.flatMap_cons, claimIdsOfClaim claims] at distinct
  exact (List.nodup_cons.mp distinct).1

variable {first second : Call} {between : List Call} {request other : ClaimRequest}
  {shown again : List Message} {m n : Message}

theorem endedBefore (w : WellFormed s) (fresh : FreshFor s (first :: between))
    (claims : first.command = .claim request)
    (made : Effect s first (.claim request) (.ok (.messages shown)) (s.after first)) (taken : m ∈ shown)
    (order : ∀ call ∈ between, call.now ≤ second.now)
    (unreleased : ∀ call ∈ between, call.command ≠ .release first.fresh.claim)
    (remade : Effect ((s.after first).run between) second (.claim other) (.ok (.messages again)) t)
    (takenAgain : n ∈ again) (same : n.id = m.id) :
    (lastEnd first.fresh.claim ((s.after first).history between)).getD
      (first.now + request.ttl.nanos + request.grace.nanos) ≤ second.now := by
  have well := afterWellFormed w fresh.head
  obtain ⟨_, ⟨x, hx, named⟩, _⟩ := shownByClaim made taken
  obtain ⟨_, ⟨y, hy, namedAgain⟩, _⟩ := shownByClaim remade takenAgain
  obtain ⟨x', member, _, rfl⟩ := w.purgeMember.mp ((chosenPart _ _).subset hx)
  have unposted := storedNotPosted fresh member
  rw [List.flatMap_cons, List.mem_append, not_or] at unposted
  have bound := boundRun well (fresh.tail w) unreleased (claimNotMade fresh claims)
    (named ▸ unposted.2) order (boundByClaim w made taken)
  -- the second claim takes from the purged store only what no claim holds
  cases bound.purge (runWellFormed well (fresh.tail w)) (Nat.le_refl _) with
  | ended _ past => exact past
  | held _ _ _ under =>
    have free := chosenFree hy
    rw [under y ((chosenPart _ _).subset hy) (namedAgain.trans same)] at free
    contradiction

theorem claimedAgain {before : List Call} (fresh : FreshIds (before ++ first :: (between ++ [second])))
    (timed : Timed (before ++ first :: (between ++ [second])))
    (claims : first.command = .claim request)
    (ok : (empty.run before).answer first = .ok (.messages shown)) (taken : m ∈ shown)
    (claimsAgain : second.command = .claim other)
    (okAgain : (empty.run (before ++ first :: between)).answer second = .ok (.messages again))
    (takenAgain : n ∈ again) (same : n.id = m.id) :
    ∃ c d, m.claim = some c ∧ n.claim = some d ∧ c ≠ d ∧
      ((∃ call ∈ between, call.command = .release c) ∨
        ∃ ends, lastEnd c (empty.history (before ++ first :: between)) = some ends ∧ ends ≤ second.now) := by
  have later : FreshFor (empty.run before) (first :: (between ++ [second])) :=
    fresh.forEmpty.later emptyWellFormed
  have w : WellFormed (empty.run before) := runWellFormed emptyWellFormed fresh.forEmpty.earlier
  have upTo : FreshFor (empty.run before) (first :: between) := later.earlier
  have well := runWellFormed w upTo
  rw [runAppend] at okAgain
  have made := answered w later.head claims ok
  have remade := answered well (later.later w) claimsAgain okAgain
  have under := (shownByClaim made taken).1
  have distinct : first.fresh.claim ≠ second.fresh.claim := by
    have unmade := claimNotMade later claims
    rw [List.flatMap_append, List.mem_append, not_or] at unmade
    simpa [claimIdsOfClaim claimsAgain] using unmade.2
  refine ⟨_, _, under, (shownByClaim remade takenAgain).1, distinct, ?_⟩
  by_cases released : ∃ call ∈ between, call.command = .release first.fresh.claim
  · exact .inl released
  obtain ⟨_, afterwards, _⟩ := List.pairwise_append.mp timed
  obtain ⟨_, _, order⟩ := List.pairwise_append.mp (List.pairwise_cons.mp afterwards).2
  have lasts : Event.claimEnd first.fresh.claim ⟨empty.run before, first⟩ =
      some (first.now + request.ttl.nanos + request.grace.nanos) := by
    rw [Event.claimEnd, claims, Event.answer, ok]
    exact if_pos ⟨m, taken, under⟩
  -- the history starts before the claim was made; the call that made it gave it its first end
  rw [historyAppend]
  exact .inr ⟨_, lastEndMade lasts _ _, endedBefore w upTo claims made taken
    (fun call member => order call member second List.mem_cons_self)
    (fun call member release => released ⟨call, member, release⟩) remade takenAgain same⟩

theorem claimedAfterRenewal :
    let request : ClaimRequest := ⟨.ofSeconds 60, .ofSeconds 60, 1⟩
    let before : List Call := [⟨⟨"a"⟩, 0, .named ["m"] "", .post [⟨.ofSeconds 900, .null⟩]⟩]
    let first : Call := ⟨⟨"b"⟩, 0, .named [] "c", .claim request⟩
    let between : List Call := [⟨⟨"b"⟩, 30000000000, .named [] "", .renew ⟨"c"⟩ (.ofSeconds 60) (.ofSeconds 60)⟩]
    let second : Call := ⟨⟨"b"⟩, 150000000000, .named [] "d", .claim request⟩
    let m : Message := ⟨⟨"m"⟩, .null, some ⟨"c"⟩, ⟨0⟩, .ofSeconds 900⟩
    let n : Message := ⟨⟨"m"⟩, .null, some ⟨"d"⟩, ⟨150000000000⟩, .ofSeconds 900⟩
    (empty.run before).answer first = .ok (.messages [m]) ∧
      (empty.run (before ++ first :: between)).answer second = .ok (.messages [n]) ∧
      ∃ c d, m.claim = some c ∧ n.claim = some d ∧ c ≠ d ∧
        ((∃ call ∈ between, call.command = .release c) ∨
          ∃ ends, lastEnd c (empty.history (before ++ first :: between)) = some ends ∧ ends ≤ second.now) :=
  ⟨rfl, rfl, claimedAgain (by decide) (by decide) rfl rfl List.mem_cons_self rfl rfl List.mem_cons_self rfl⟩

end CloudClient.Queue.Store
