import CloudClient.Proofs.Queue.Claiming
/-! What a posted batch looks like afterwards. The store may still have lapsed claims and expired messages when
it comes; it is read back as it was posted, behind all that was there before, and everything else reads as it
did. -/
namespace CloudClient.Queue.Store

def Behind (ids earlier order : List MessageId) : Prop := order.Pairwise fun a b => a ∈ ids → b ∉ earlier

def walkedFrom (calls : List Call) (reader : ClientId) (now : Nat) (options : StreamOptions) (fuel : Nat) :
    Option (Outcome (List Message)) :=
  (Page.Cursor.collect? (fetcher reader now) fuel (.new options) (empty.run calls)).1

structure PostedBack (calls : List Call) (call : Call) (drafts : List Draft) (ids : List MessageId) : Prop where
  answered : (empty.run calls).answer call = .ok (.posted ids)
  counted : ids.length = drafts.length
  unused : ids.Nodup ∧ ∀ id ∈ ids, id ∉ posted calls ∧ ∀ time, (empty.run calls).get time id = none
  numbered : posted (calls ++ [call]) = posted calls ++ ids
  listed : ∀ reader fresh, (empty.run (calls ++ [call])).answer ⟨reader, call.now, fresh, .list ids⟩ =
    .ok (.messages (List.zipWith (fun id d => ⟨id, d.body, none, .zero, d.ttl⟩) ids drafts))
  added : ∀ later, call.now ≤ later →
    found (calls ++ [call]) later = found calls later ++ (empty.run (calls ++ [call])).viewAll ids later
  others : ∀ later, call.now ≤ later → ∀ id ∉ ids,
    (empty.run (calls ++ [call])).get later id = (empty.run calls).get later id
  claims : ∀ later, call.now ≤ later → ∀ c,
    (empty.run (calls ++ [call])).getClaim later c = (empty.run calls).getClaim later c
  walked : (posted (calls ++ [call])).length ≤ UInt64.size → ∀ later, call.now ≤ later → ∀ reader options start,
    options.validate = .ok () → startOf options.marker = .ok start → start ≤ (posted calls).length →
      ∃ earlier few, ∀ fuel, few ≤ fuel → walkedFrom calls reader later options fuel = some (.ok earlier) ∧
        walkedFrom (calls ++ [call]) reader later options fuel = some (.ok (earlier ++
          if options.echo || call.client != reader then (empty.run (calls ++ [call])).viewAll ids later else []))
  behindInWalks : ∀ rest, FreshIds (calls ++ call :: rest) → ∀ reader options before turns,
    before ++ turns.flatMap Turn.calls = calls ++ call :: rest →
      Behind ids (posted calls) (((visits reader (.new options) before turns).flatMap Visit.items).map (·.id))
  behindInClaims : ∀ rest claim request, FreshIds (calls ++ call :: rest ++ [claim]) →
    claim.command = .claim request → ∀ given,
    (empty.run (calls ++ call :: rest)).answer claim = .ok (.messages given) →
      ∃ left, given.map (·.id) ++ left = (unheld (calls ++ call :: rest) claim.now).map (·.id) ∧
        Behind ids (posted calls) (given.map (·.id) ++ left)

variable {s t : Store} {now later : Nat} {c : ClaimId} {call : Call} {drafts : List Draft} {ids : List MessageId}
  {calls : List Call}

structure Extended (s t : Store) (call : Call) (drafts : List Draft) : Prop where
  well : WellFormed t
  messages : t.messages = (s.purge call.now).messages ++ queued call.client call.now s.nextSeq (call.batch drafts)
  holds : t.holds = (s.purge call.now).holds

theorem postExtended (w : WellFormed s) (fresh : FreshFor s [call]) (own : call.command = .post drafts)
    (valid : Draft.validateAll drafts = .ok ()) :
    s.answer call = .ok (.posted ((call.batch drafts).map (·.1))) ∧ Extended s (s.after call) call drafts := by
  have answered : s.answer call = .ok (.posted ((call.batch drafts).map (·.1))) := by
    simp only [answer, own, perform, post, valid]
    rfl
  have effect := Store.answered w fresh own answered
  generalize s.after call = t at effect ⊢
  cases effect with
  | read reads => contradiction
  | posted _ well messages holds => exact ⟨answered, well, messages, holds⟩

namespace Extended

variable (e : Extended s t call drafts)
include e

theorem holder (m : Stored) (later : Nat) : t.holder? m later = (s.purge call.now).holder? m later := by
  simp only [holder?, liveHold?, hold?, e.holds]

theorem view (m : Stored) (later : Nat) : t.view m later = (s.purge call.now).view m later := by
  rw [Store.view, Store.view, e.holder]

theorem earlierOutsideBatch {m : Stored} (member : m ∈ (s.purge call.now).messages) : m.id ∉ (call.batch drafts).map (·.1) := by
  have distinct := e.well.ids
  rw [e.messages, List.map_append, queuedIds] at distinct
  exact fun batch => (List.nodup_append.mp distinct).2.2 _ (List.mem_map_of_mem member) _ batch rfl

theorem get (w : WellFormed s) {id : MessageId} (other : id ∉ (call.batch drafts).map (·.1))
    (order : call.now ≤ later) : t.get later id = s.get later id := by
  rw [← getLater w order]
  refine Option.ext fun m => ?_
  rw [getIff e.well.keyed, getIff (w.purged call.now).keyed, e.messages]
  constructor
  · rintro ⟨row, member, rfl, lives, rfl⟩
    rcases List.mem_append.mp member with old | new
    · exact ⟨row, old, rfl, lives, (e.view row later).symm⟩
    · exact absurd (queuedIds _ _ _ _ ▸ List.mem_map_of_mem new) other
  · rintro ⟨row, member, rfl, lives, rfl⟩
    exact ⟨row, List.mem_append_left _ member, rfl, lives, e.view row later⟩

theorem getClaim (w : WellFormed s) (order : call.now ≤ later) (c : ClaimId) :
    t.getClaim later c = s.getClaim later c := by
  rw [← getClaimLater w order, Store.getClaim, Store.getClaim, liveHold?, liveHold?, hold?, hold?, e.holds]
  refine Option.map_congr fun h live => ?_
  obtain ⟨hh, _, _⟩ := (w.purged call.now).liveHoldIff.mp live
  rw [viewAllEq, viewAllEq]
  congr 1
  refine List.filterMap_congr fun id inside => ?_
  rw [(w.purged call.now).listed hh] at inside
  obtain ⟨m, member, rfl⟩ := List.mem_map.mp inside
  rw [e.get w (e.earlierOutsideBatch (List.mem_filter.mp member).1) order, getLater w order]

theorem viewAll (later : Nat) : t.viewAll ((call.batch drafts).map (·.1)) later =
    ((queued call.client call.now s.nextSeq (call.batch drafts)).filter (later < ·.expires)).map
      fun m => t.view m later := by
  rw [viewAllEq, ← queuedIds call.client call.now s.nextSeq, List.filterMap_map, ← List.filterMap_eq_map,
    List.filterMap_filter]
  refine List.filterMap_congr fun m member => ?_
  have inside : m ∈ t.messages := e.messages ▸ List.mem_append_right _ member
  by_cases lives : later < m.expires
  · rw [if_pos (decide_eq_true lives)]
    exact (getIff e.well.keyed).mpr ⟨m, inside, rfl, lives, rfl⟩
  · rw [if_neg (by simpa using lives)]
    refine Option.eq_none_iff_forall_ne_some.mpr fun shown got => lives ?_
    obtain ⟨n, hn, same, outlives, _⟩ := (getIff e.well.keyed).mp got
    rwa [e.well.keyed.sameId hn inside same] at outlives

end Extended

theorem queuedShown (s : Store) (author : ClientId) (now seq : Nat) {batch : List (MessageId × Draft)}
    (valid : ∀ entry ∈ batch, Within 1209600 entry.2.ttl) :
    ((queued author now seq batch).filter (now < ·.expires)).map (fun m => s.view m now) =
      batch.map fun (id, d) => ⟨id, d.body, none, .zero, d.ttl⟩ := by
  induction batch generalizing seq with
  | nil => rfl
  | cons entry rest ih =>
    obtain ⟨first, later⟩ := List.forall_mem_cons.mp valid
    have lives : now < (enqueued author now seq entry.1 entry.2).expires := by
      have least : (Duration.ofSeconds 60).nanos ≤ entry.2.ttl.nanos := first.1
      have positive : 0 < (Duration.ofSeconds 60).nanos := by decide
      exact Nat.lt_add_of_pos_right (Nat.lt_of_lt_of_le positive least)
    have shown : s.view (enqueued author now seq entry.1 entry.2) now =
        ⟨entry.1, entry.2.body, none, .zero, entry.2.ttl⟩ := by
      simp only [Store.view, enqueued, holder?, Option.filter_none, Nat.sub_self]
      rfl
    rw [queued, List.filter_cons_of_pos (p := fun m : Stored => decide (now < m.expires)) (decide_eq_true lives),
      List.map_cons, ih _ later, List.map_cons, shown]

theorem queuedFree {author : ClientId} {now seq : Nat} {batch : List (MessageId × Draft)} {m : Stored}
    (member : m ∈ queued author now seq batch) : m.claim = none := by
  induction batch generalizing seq with
  | nil => cases member
  | cons entry rest ih =>
    rcases List.mem_cons.mp member with rfl | later
    · rfl
    · exact ih later

theorem Extended.batch (e : Extended s t call drafts) {m : Message}
    (member : m ∈ t.viewAll ((call.batch drafts).map (·.1)) later) :
    m.id ∈ (call.batch drafts).map (·.1) ∧ m.claim = none := by
  rw [e.viewAll] at member
  obtain ⟨row, inside, rfl⟩ := List.mem_map.mp member
  have posted := (List.mem_filter.mp inside).1
  refine ⟨queuedIds _ _ _ _ ▸ List.mem_map_of_mem posted, ?_⟩
  rw [Store.view, holder?, queuedFree posted, Option.filter_none]

theorem Extended.readBack (e : Extended s t call drafts) (valid : (Command.post drafts).Valid) :
    t.viewAll ((call.batch drafts).map (·.1)) call.now =
      List.zipWith (fun id d => ⟨id, d.body, none, .zero, d.ttl⟩) ((call.batch drafts).map (·.1)) drafts := by
  have within : ∀ entry ∈ call.batch drafts, Within 1209600 entry.2.ttl := fun entry member =>
    valid entry.2 (batchDrafts call drafts ▸ List.mem_map_of_mem member)
  rw [e.viewAll, queuedShown t _ _ _ within, ← List.map_uncurry_zip_eq_zipWith, batchZip]
  rfl

theorem behindOf {order shown : List MessageId} (sorted : shown.Pairwise (order.idxOf · < order.idxOf ·))
    (known : posted calls <+: order) (apart : ∀ id ∈ ids, id ∉ posted calls) : Behind ids (posted calls) shown :=
  sorted.imp fun {a b} less batch earlier => by
    have far : ¬ order.idxOf a < (posted calls).length := mt (beforeIff known).mpr (apart a batch)
    have near : order.idxOf b < (posted calls).length := (beforeIff known).mp earlier
    omega

theorem placesGrow {order : List MessageId} (distinct : order.Nodup) :
    order.Pairwise (order.idxOf · < order.idxOf ·) := by
  refine List.pairwise_iff_getElem.mpr fun i j hi hj less => ?_
  rwa [distinct.idxOf_getElem, distinct.idxOf_getElem]

theorem walkRefused {reader : ClientId} {options : StreamOptions}
    (refuses : ∀ (s : Store) now, ∃ reason, s.streamPage reader now options = .error reason) (before : List Call)
    (turns : List Turn) : (visits reader (.new options) before turns).flatMap Visit.items = [] := by
  cases turns with
  | nil => rfl
  | cons turn turns =>
    obtain ⟨reason, refused⟩ := refuses (empty.run (before ++ turn.calls)) turn.now
    rw [Page.Cursor.new, visitsTurn, refused, Page.Cursor.advance]
    dsimp only
    split <;> rw [visitsDone rfl] <;> rfl

theorem behindInEachWalk {rest before : List Call} {turns : List Turn} (fresh : FreshIds (calls ++ rest))
    (apart : ∀ id ∈ ids, id ∉ posted calls) (reader : ClientId) (options : StreamOptions)
    (through : before ++ turns.flatMap Turn.calls = calls ++ rest) :
    Behind ids (posted calls) (((visits reader (.new options) before turns).flatMap Visit.items).map (·.id)) := by
  cases valid : options.validate with
  | error reason =>
    rw [walkRefused (fun s now => ⟨reason, by rw [streamPage, valid]⟩)]
    exact .nil
  | ok =>
    cases parsed : startOf options.marker with
    | error reason =>
      rw [walkRefused (fun s now => ⟨reason, by rw [streamPage, valid, parsed]⟩)]
      exact .nil
    | ok start =>
      have walk : Streamed reader options _ start (visits reader (.new options) before turns) :=
        streamedEach valid (postedNodup fresh) (through ▸ fresh) (through ▸ List.prefix_refl _) (.readable parsed)
      exact behindOf (List.pairwise_map.mpr walk.inOrder) (postedAppend calls rest) apart

theorem behindInEachClaim {rest : List Call} {claim : Call} {request : ClaimRequest} {given : List Message}
    (fresh : FreshIds (calls ++ rest ++ [claim])) (apart : ∀ id ∈ ids, id ∉ posted calls)
    (own : claim.command = .claim request)
    (answered : (empty.run (calls ++ rest)).answer claim = .ok (.messages given)) :
    ∃ left, given.map (·.id) ++ left = (unheld (calls ++ rest) claim.now).map (·.id) ∧
      Behind ids (posted calls) (given.map (·.id) ++ left) := by
  have before : FreshIds (calls ++ rest) := fresh.forEmpty.earlier
  have w := reachedWellFormed before
  have ordered : Behind ids (posted calls) ((unheld (calls ++ rest) claim.now).map (·.id)) := by
    have part := (foundInOrder before claim.now (·.claim.isNone)).1
    exact behindOf ((placesGrow (postedNodup before)).sublist part) (postedAppend calls rest) apart
  have effect := Store.answered w (fresh.forEmpty.later emptyWellFormed) own answered
  generalize (empty.run (calls ++ rest)).after claim = t at effect
  cases effect with
  | read reads => contradiction
  | nothing => exact ⟨_, rfl, ordered⟩
  | claimed =>
    let free := unheld (calls ++ rest) claim.now
    rw [chosenViews w, ← foundRows before, List.map_map]
    show ∃ left, (free.take request.limit).map (·.id) ++ left = free.map (·.id) ∧
      Behind ids (posted calls) ((free.take request.limit).map (·.id) ++ left)
    have whole : (free.take request.limit).map (·.id) ++ (free.drop request.limit).map (·.id) = free.map (·.id) := by
      rw [← List.map_append, List.take_append_drop]
    exact ⟨(free.drop request.limit).map (·.id), whole, whole ▸ ordered⟩

theorem postsBatch (own : call.command = .post drafts) (answered : (empty.run calls).answer call = .ok (.posted ids)) :
    posts (calls ++ [call]) = posts calls ++ ids.map fun id => (id, call.client) := by
  have event : Event.posts ⟨empty.run calls, call⟩ = ids.map fun id => (id, call.client) := by
    rw [Event.posts, Event.answer, answered, own]
    rfl
  rw [posts, historyAppend, List.flatMap_append, ← posts, history, history, List.flatMap_singleton, event]

theorem postedBatch (own : call.command = .post drafts)
    (answered : (empty.run calls).answer call = .ok (.posted ids)) :
    posted (calls ++ [call]) = posted calls ++ ids := by
  rw [← postsIds, postsBatch own answered, List.map_append, postsIds, List.map_map]
  exact congrArg _ (List.map_id _)

theorem storedPosted (fresh : FreshIds calls) {m : Stored} (member : m ∈ (empty.run calls).messages) :
    m.id ∈ posted calls :=
  List.mem_of_getElem? ((reachedNumbered fresh).stored m member)

theorem admittedPosted (fresh : FreshIds calls) {includeClaimed : Bool} {start : Nat} {m : Message}
    (member : m ∈ admitted calls later includeClaimed start) : m.id ∈ posted calls := by
  obtain ⟨id, posted, got⟩ := List.mem_filterMap.mp (List.mem_filter.mp member).1
  rw [((foundIff fresh).mp got).2]
  exact List.mem_of_mem_drop posted

section Batch

variable (fresh : FreshIds calls) (e : Extended (empty.run calls) (empty.run (calls ++ [call])) call drafts)
  (numbered : posted (calls ++ [call]) = posted calls ++ (call.batch drafts).map (·.1))
  (apart : ∀ id ∈ (call.batch drafts).map (·.1), id ∉ posted calls)
include fresh e numbered apart

theorem admittedBatch (order : call.now ≤ later) (includeClaimed : Bool) {start : Nat}
    (reached : start ≤ (posted calls).length) :
    admitted (calls ++ [call]) later includeClaimed start = admitted calls later includeClaimed start ++
      (empty.run (calls ++ [call])).viewAll ((call.batch drafts).map (·.1)) later := by
  have earlier : ((posted calls).drop start).filterMap ((empty.run (calls ++ [call])).get later) =
      ((posted calls).drop start).filterMap ((empty.run calls).get later) :=
    List.filterMap_congr fun id member =>
      e.get (reachedWellFormed fresh) (fun batch => apart id batch (List.mem_of_mem_drop member)) order
  have free : ∀ m ∈ (empty.run (calls ++ [call])).viewAll ((call.batch drafts).map (·.1)) later,
      (includeClaimed || m.claim.isNone) = true := fun m member => by
    rw [(e.batch member).2, Option.isNone_none, Bool.or_true]
  rw [admitted, numbered, List.drop_append_of_le_length reached, List.filterMap_append, earlier, List.filter_append,
    ← viewAllEq (empty.run (calls ++ [call])), List.filter_eq_self.mpr free, admitted]

theorem foundBatch (order : call.now ≤ later) : found (calls ++ [call]) later = found calls later ++
    (empty.run (calls ++ [call])).viewAll ((call.batch drafts).map (·.1)) later := by
  simpa [admittedWhole] using admittedBatch fresh e numbered apart order true (Nat.zero_le _)

theorem shownBatch (own : call.command = .post drafts)
    (answered : (empty.run calls).answer call = .ok (.posted ((call.batch drafts).map (·.1))))
    (order : call.now ≤ later) (reader : ClientId) (echo includeClaimed : Bool) {start : Nat}
    (reached : start ≤ (posted calls).length) :
    (admitted (calls ++ [call]) later includeClaimed start).filter
        (fun m => echo || (m.id, reader) ∉ posts (calls ++ [call])) =
      (admitted calls later includeClaimed start).filter (fun m => echo || (m.id, reader) ∉ posts calls) ++
        if echo || call.client != reader then
          (empty.run (calls ++ [call])).viewAll ((call.batch drafts).map (·.1)) later
        else [] := by
  have earlier : ∀ m ∈ admitted calls later includeClaimed start,
      (m.id, reader) ∈ posts (calls ++ [call]) ↔ (m.id, reader) ∈ posts calls := by
    intro m member
    rw [postsBatch own answered, List.mem_append, or_iff_left]
    rintro batch
    obtain ⟨id, inside, same⟩ := List.mem_map.mp batch
    cases same
    exact apart _ inside (admittedPosted fresh member)
  have new : ∀ m ∈ (empty.run (calls ++ [call])).viewAll ((call.batch drafts).map (·.1)) later,
      (m.id, reader) ∈ posts (calls ++ [call]) ↔ call.client = reader := by
    intro m member
    have inside := (e.batch member).1
    rw [postsBatch own answered, List.mem_append, or_iff_right]
    · rw [List.mem_map]
      constructor
      · rintro ⟨id, _, same⟩
        exact (Prod.ext_iff.mp same).2
      · rintro rfl
        exact ⟨m.id, inside, rfl⟩
    · intro old
      exact apart _ inside (postsIds calls ▸ List.mem_map_of_mem old)
  rw [admittedBatch fresh e numbered apart order includeClaimed reached, List.filter_append]
  congr 1
  · refine List.filter_congr fun m member => ?_
    simp only [earlier m member]
  · split
    · rename_i shown
      refine List.filter_eq_self.mpr fun m member => ?_
      simpa [new m member] using shown
    · rename_i hidden
      refine List.filter_eq_nil_iff.mpr fun m member => ?_
      simpa [new m member] using hidden

end Batch

theorem postedAsDrafted (fresh : FreshIds (calls ++ [call])) (own : call.command = .post drafts)
    (valid : (Command.post drafts).Valid) : PostedBack calls call drafts ((call.batch drafts).map (·.1)) := by
  have before : FreshIds calls := fresh.forEmpty.earlier
  have w := reachedWellFormed before
  have passed := (draftsDecided drafts).passed valid
  obtain ⟨answered, e⟩ := postExtended w (fresh.forEmpty.later emptyWellFormed) own passed
  have last : (empty.run calls).after call = empty.run (calls ++ [call]) := (runAppend empty calls [call]).symm
  rw [last] at e
  have numbered := postedBatch own answered
  have distinct := postedNodup fresh
  rw [numbered] at distinct
  obtain ⟨_, different, disjoint⟩ := List.nodup_append.mp distinct
  have apart : ∀ id ∈ (call.batch drafts).map (·.1), id ∉ posted calls := fun id batch earlier =>
    disjoint id earlier id batch rfl
  exact {
    answered, numbered
    counted := by rw [List.length_map, Call.batch, List.length_map, List.length_zipIdx]
    unused := ⟨different, fun id batch => ⟨apart id batch, fun time =>
      getAbsent w.keyed fun m member same => apart id batch (same ▸ storedPosted before member)⟩⟩
    listed := fun _ _ => congrArg (fun shown => Except.ok (Answer.messages shown)) (e.readBack valid)
    added := fun _ order => foundBatch before e numbered apart order
    others := fun _ order _ other => e.get w other order
    claims := fun _ order c => e.getClaim w order c
    walked := fun fits later order reader options start valid parsed reached => by
      have fitsBefore := Nat.le_trans (postedAppend calls [call]).length_le fits
      obtain ⟨few, walk⟩ := walkedAdmitted before fitsBefore reader later valid parsed
      obtain ⟨more, longer⟩ := walkedAdmitted fresh fits reader later valid parsed
      refine ⟨_, max few more, fun fuel enough => ⟨walk fuel (Nat.le_trans (Nat.le_max_left _ _) enough), ?_⟩⟩
      refine (longer fuel (Nat.le_trans (Nat.le_max_right _ _) enough)).trans ?_
      rw [shownBatch before e numbered apart own answered order reader _ _ reached]
    behindInWalks := fun _ fresh reader options _ _ through => behindInEachWalk fresh apart reader options through
    behindInClaims := fun _ _ _ fresh own _ answered => behindInEachClaim fresh apart own answered }

theorem postUnstored (bad : ∃ d ∈ drafts, ¬ Within 1209600 d.ttl) (own : call.command = .post drafts) (s : Store) :
    (∃ reason, s.answer call = .error (.invalidArgument reason)) ∧ s.after call = s := by
  obtain ⟨d, member, outside⟩ := bad
  rcases draftsDecided drafts with ⟨valid, _⟩ | ⟨_, reason, refused⟩
  · exact absurd (valid d member) outside
  · rw [answer, after, own, perform, post, refused]
    exact ⟨⟨reason, rfl⟩, rfl⟩

theorem postReadBack (fresh : FreshIds (calls ++ [call])) (own : call.command = .post drafts) :
    ((Command.post drafts).Valid → ∃ ids, PostedBack calls call drafts ids) ∧
      ((∃ d ∈ drafts, ¬ Within 1209600 d.ttl) →
        (∃ reason, (empty.run calls).answer call = .error (.invalidArgument reason)) ∧
          empty.run (calls ++ [call]) = empty.run calls) := by
  refine ⟨fun valid => ⟨_, postedAsDrafted fresh own valid⟩, fun bad => ?_⟩
  rw [runAppend]
  exact postUnstored bad own _

theorem postedAfterALapse :
    let calls : List Call := [
      ⟨⟨"a"⟩, 0, .named ["k", "l"] "", .post ([900, 60].map fun seconds => ⟨.ofSeconds seconds, .null⟩)⟩,
      ⟨⟨"b"⟩, 1, .named [] "c", .claim ⟨.ofSeconds 60, .ofSeconds 60, 1⟩⟩]
    let drafts (least : Nat) : List Draft := [⟨.ofSeconds 1209600, .ofNat 1⟩, ⟨.ofSeconds least, .ofNat 2⟩]
    let call (least : Nat) : Call := ⟨⟨"a"⟩, 200000000000, .named ["m", "n"] "", .post (drafts least)⟩
    (empty.run calls).messages.length = 2 ∧ (empty.run calls).holds.length = 1 ∧
      (FreshIds (calls ++ [call 60]) ∧ (∃ ids, PostedBack calls (call 60) (drafts 60) ids) ∧
        (found (calls ++ [call 60]) (call 60).now).map (·.id.text) = ["k", "m", "n"]) ∧
      FreshIds (calls ++ [call 59]) ∧ empty.run (calls ++ [call 59]) = empty.run calls := by
  intro calls drafts call
  have fresh : FreshIds (calls ++ [call 60]) := by decide
  have freshToo : FreshIds (calls ++ [call 59]) := by decide
  have valid : (Command.post (drafts 60)).Valid := by
    show ∀ d ∈ drafts 60, Within 1209600 d.ttl
    decide
  have bad : ∃ d ∈ drafts 59, ¬ Within 1209600 d.ttl := by decide
  exact ⟨by decide +kernel, by decide +kernel, ⟨fresh, (postReadBack fresh rfl).1 valid, by decide +kernel⟩,
    freshToo, ((postReadBack freshToo rfl).2 bad).2⟩

end CloudClient.Queue.Store
