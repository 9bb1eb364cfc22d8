import CloudClient.Proofs.Queue.Paging
/-! All ways of reading a queue show the same messages. Looking up by id goes through the index, a claim shows
its own list and a stream goes through the messages; at every time, whether or not a purge has been, each of
them shows the messages that are found by their ids, in posting order. -/
namespace CloudClient.Queue.Store

def found (calls : List Call) (now : Nat) : List Message := (posted calls).filterMap ((empty.run calls).get now)

def Holds (s : Store) (now : Nat) (c : ClaimId) (id : MessageId) : Prop :=
  ∃ claim, s.getClaim now c = some claim ∧ ∃ m ∈ claim.messages, m.id = id

structure Agreeing (calls : List Call) (now : Nat) : Prop where
  got : ∀ id m, (empty.run calls).get now id = some m ↔ m ∈ found calls now ∧ m.id = id
  inOrder : ((found calls now).map (·.id)).Sublist (posted calls) ∧ ((found calls now).map (·.id)).Nodup
  counted : (empty.run calls).size now = (found calls now).length
  held : ∀ c id, Holds (empty.run calls) now c id ↔ ∃ m, (empty.run calls).get now id = some m ∧ m.claim = some c
  heldInOrder : ∀ c claim, (empty.run calls).getClaim now c = some claim →
    claim.messages = (found calls now).filter (·.claim = some c) ∧
      (claim.messages.map (·.id)).Sublist (posted calls) ∧ (claim.messages.map (·.id)).Nodup
  listed : ∀ ids, (empty.run calls).viewAll ids now = ids.filterMap ((empty.run calls).get now)
  streamed : (posted calls).length ≤ UInt64.size → ∀ reader limit,
    (StreamOptions.mk limit none true true).validate = .ok () → ∃ few, ∀ fuel, few ≤ fuel →
      (Page.Cursor.collect? (fetcher reader now) fuel (.new ⟨limit, none, true, true⟩) (empty.run calls)).1 =
        some (.ok (found calls now))
  streamedUnclaimed : (posted calls).length ≤ UInt64.size → ∀ reader limit,
    (StreamOptions.mk limit none true false).validate = .ok () → ∃ few, ∀ fuel, few ≤ fuel →
      (Page.Cursor.collect? (fetcher reader now) fuel (.new ⟨limit, none, true, false⟩) (empty.run calls)).1 =
        some (.ok ((found calls now).filter (·.claim.isNone)))

variable {s : Store} {now : Nat} {c : ClaimId} {claim : Claim}

theorem heldViews (w : WellFormed s) {h : Hold} (hh : h ∈ s.holds) (lives : now < h.until) :
    s.viewAll h.messages now = ((s.live now).map fun m => s.view m now).filter (·.claim = some h.id) := by
  have rows : ((s.live now).map fun m => s.view m now).filter (·.claim = some h.id) =
      (s.messages.filter (·.claim = some h.id)).map fun m => s.view m now := by
    rw [List.filter_map, ← liveUnder w hh lives]
    rfl
  rw [rows, viewAllEq, w.listed hh, heldBy, List.filterMap_map, ← List.filterMap_eq_map]
  refine List.filterMap_congr fun m listed => ?_
  obtain ⟨member, own⟩ := List.mem_filter.mp listed
  have outlives := w.outlives member hh (of_decide_eq_true own)
  exact (getIff w.keyed).mpr ⟨m, member, rfl, Nat.lt_of_lt_of_le lives outlives, rfl⟩

theorem claimViews (w : WellFormed s) (got : s.getClaim now c = some claim) :
    claim.messages = ((s.live now).map fun m => s.view m now).filter (·.claim = some c) := by
  obtain ⟨h, live, rfl⟩ := Option.map_eq_some_iff.mp got
  obtain ⟨hh, rfl, lives⟩ := w.liveHoldIff.mp live
  exact heldViews w hh lives

theorem gotIff (k : Keyed s) {id : MessageId} {m : Message} :
    s.get now id = some m ↔ m ∈ (s.live now).map (fun row => s.view row now) ∧ m.id = id := by
  rw [getIff k, List.mem_map]
  constructor
  · rintro ⟨row, member, rfl, lives, rfl⟩
    exact ⟨⟨row, List.mem_filter.mpr ⟨member, decide_eq_true lives⟩, rfl⟩, rfl⟩
  · rintro ⟨⟨row, live, rfl⟩, rfl⟩
    obtain ⟨member, lives⟩ := List.mem_filter.mp live
    exact ⟨row, member, rfl, of_decide_eq_true lives, rfl⟩

theorem claimOfView (w : WellFormed s) {m : Stored} (member : m ∈ s.messages) (held : s.holder? m now = some c) :
    ∃ claim, s.getClaim now c = some claim := by
  obtain ⟨_, h, hh, rfl, lives⟩ := (w.holder member).mp held
  exact ⟨_, Option.map_eq_some_iff.mpr ⟨h, w.liveHoldIff.mpr ⟨hh, rfl, lives⟩, rfl⟩⟩

theorem holdsIff (w : WellFormed s) (id : MessageId) :
    Holds s now c id ↔ ∃ m, s.get now id = some m ∧ m.claim = some c := by
  constructor
  · rintro ⟨claim, got, m, member, named⟩
    rw [claimViews w got, List.mem_filter, decide_eq_true_eq] at member
    exact ⟨m, (gotIff w.keyed).mpr ⟨member.1, named⟩, member.2⟩
  · rintro ⟨m, got, under⟩
    obtain ⟨row, stored, _, _, rfl⟩ := (getIff w.keyed).mp got
    obtain ⟨claim, given⟩ := claimOfView w stored under
    obtain ⟨inside, named⟩ := (gotIff w.keyed).mp got
    refine ⟨claim, given, _, ?_, named⟩
    rw [claimViews w given]
    exact List.mem_filter.mpr ⟨inside, decide_eq_true under⟩

variable {calls : List Call}

theorem foundRows (fresh : FreshIds calls) (now : Nat) :
    found calls now = ((empty.run calls).live now).map fun m => (empty.run calls).view m now := by
  have rows := (reachedNumbered fresh).found (reachedWellFormed fresh).keyed (postedNodup fresh) 0 now
  rwa [List.drop_zero, List.filter_eq_self.mpr (by simp)] at rows

theorem foundIff (fresh : FreshIds calls) {id : MessageId} {m : Message} :
    (empty.run calls).get now id = some m ↔ m ∈ found calls now ∧ m.id = id := by
  rw [gotIff (reachedWellFormed fresh).keyed, foundRows fresh]

theorem foundIds (fresh : FreshIds calls) (now : Nat) :
    (found calls now).map (·.id) = (posted calls).filter fun id => ((empty.run calls).get now id).isSome := by
  rw [found, List.map_filterMap, ← List.filterMap_eq_filter]
  refine List.filterMap_congr fun id _ => ?_
  cases got : (empty.run calls).get now id with
  | none => simp [Option.guard, got]
  | some m => simp [Option.guard, got, (foundIff fresh).mp got]

theorem foundInOrder (fresh : FreshIds calls) (now : Nat) (p : Message → Bool) :
    (((found calls now).filter p).map (·.id)).Sublist (posted calls) ∧
      (((found calls now).filter p).map (·.id)).Nodup := by
  have whole : ((found calls now).map (·.id)).Sublist (posted calls) := foundIds fresh now ▸ List.filter_sublist
  have part := (List.filter_sublist (p := p)).map (·.id) |>.trans whole
  exact ⟨part, (postedNodup fresh).sublist part⟩

theorem admittedWhole (calls : List Call) (now : Nat) (includeClaimed : Bool) :
    admitted calls now includeClaimed 0 = (found calls now).filter fun m => includeClaimed || m.claim.isNone := by
  rw [admitted, List.drop_zero]
  rfl

theorem walkedThrough (fresh : FreshIds calls) (fits : (posted calls).length ≤ UInt64.size) (reader : ClientId)
    (now : Nat) (includeClaimed : Bool) {limit : Option Nat}
    (valid : (StreamOptions.mk limit none true includeClaimed).validate = .ok ()) :
    ∃ few, ∀ fuel, few ≤ fuel →
      (Page.Cursor.collect? (fetcher reader now) fuel (.new ⟨limit, none, true, includeClaimed⟩) (empty.run calls)).1 =
        some (.ok ((found calls now).filter fun m => includeClaimed || m.claim.isNone)) := by
  obtain ⟨few, walk⟩ := walkedAdmitted fresh fits reader now valid (rfl : startOf none = .ok 0)
  refine ⟨few, fun fuel enough => (walk fuel enough).trans ?_⟩
  rw [admittedWhole]
  simp

theorem viewsAgree (fresh : FreshIds calls) (now : Nat) : Agreeing calls now where
  got _ _ := foundIff fresh
  inOrder := by simpa using foundInOrder fresh now fun _ => true
  counted := by rw [foundRows fresh, List.length_map, size]
  held _ id := holdsIff (reachedWellFormed fresh) id
  heldInOrder c claim got := by
    rw [claimViews (reachedWellFormed fresh) got, ← foundRows fresh]
    exact ⟨rfl, foundInOrder fresh now _⟩
  listed ids := viewAllEq _ ids now
  streamed fits reader limit valid := by simpa using walkedThrough fresh fits reader now true valid
  streamedUnclaimed fits reader limit valid := by simpa using walkedThrough fresh fits reader now false valid

theorem agreeingBeforeAPurge :
    let request (seconds : Nat) : ClaimRequest := ⟨.ofSeconds seconds, .ofSeconds 60, 1⟩
    let calls : List Call := [
      ⟨⟨"a"⟩, 0, .named ["k", "l", "m"] "", .post ([900, 900, 60].map fun seconds => ⟨.ofSeconds seconds, .null⟩)⟩,
      ⟨⟨"b"⟩, 1, .named [] "c", .claim (request 60)⟩,
      ⟨⟨"b"⟩, 2, .named [] "d", .claim (request 300)⟩]
    let now := 200000000000
    FreshIds calls ∧ (empty.run calls).messages.length = 3 ∧ (empty.run calls).holds.length = 2 ∧
      (found calls now).map (fun m => (m.id.text, m.claim.map (·.text))) = [("k", none), ("l", some "d")] ∧
      Agreeing calls now := by
  intro request calls now
  have fresh : FreshIds calls := by decide
  exact ⟨fresh, by decide +kernel, by decide +kernel, by decide +kernel, viewsAgree fresh now⟩

end CloudClient.Queue.Store
