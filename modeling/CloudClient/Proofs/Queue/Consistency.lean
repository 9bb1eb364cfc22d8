import CloudClient.Proofs.Queue.Run
/-! The tables of a store agree after every run, whatever the clock says from call to call: the index
names the messages, a claim lists what is under it in posting order, and nothing expires before the
claim that holds it. -/
namespace CloudClient.Queue.Store

structure Consistent (s : Store) : Prop where
  oneRowPerKey : s.messages.Pairwise (·.seq < ·.seq) ∧ (s.index.map (·.1)).Nodup ∧
    (s.holds.map (·.id)).Nodup
  indexed : ∀ id seq, s.seqOf? id = some seq ↔ ∃ m, s.messageAt? seq = some m ∧ m.id = id
  below : ∀ m ∈ s.messages, m.seq < s.nextSeq
  held : ∀ m ∈ s.messages, ∀ c, m.claim = some c ↔ ∃ h, s.hold? c = some h ∧ m.id ∈ h.messages
  listed : ∀ h ∈ s.holds, h.messages.Nodup ∧
    ∃ seqs : List Nat, h.messages.map s.seqOf? = seqs.map some ∧ seqs.Pairwise (· < ·)
  covered : ∀ m ∈ s.messages, ∀ c h, m.claim = some c → s.hold? c = some h → h.until ≤ m.expires
  lasting : ∀ m ∈ s.messages, m.created + m.ttl.nanos ≤ m.expires

variable {s : Store}

theorem Keyed.indexIff (k : Keyed s) (id : MessageId) (seq : Nat) :
    s.seqOf? id = some seq ↔ ∃ m, s.messageAt? seq = some m ∧ m.id = id := by
  constructor
  · intro found
    obtain ⟨m, member, named, rfl⟩ := k.seqOfSource found
    exact ⟨m, k.messageAt member, named⟩
  · rintro ⟨m, found, rfl⟩
    obtain ⟨member, rfl⟩ := messageAtSource found
    exact k.seqOf member

theorem WellFormed.heldIff (w : WellFormed s) {m : Stored} (member : m ∈ s.messages) (c : ClaimId) :
    m.claim = some c ↔ ∃ h, s.hold? c = some h ∧ m.id ∈ h.messages := by
  constructor
  · intro under
    obtain ⟨h, hh, rfl, _⟩ := w.backed m member c under
    exact ⟨h, w.hold hh, (w.listedIff hh member).mpr under⟩
  · rintro ⟨h, found, on⟩
    obtain ⟨hh, rfl⟩ := holdSource found
    exact (w.listedIff hh member).mp on

theorem WellFormed.listInOrder (w : WellFormed s) {h : Hold} (member : h ∈ s.holds) :
    h.messages.Nodup ∧ ∃ seqs : List Nat, h.messages.map s.seqOf? = seqs.map some ∧ seqs.Pairwise (· < ·) := by
  let under := s.messages.filter (·.claim = some h.id)
  have list : h.messages = under.map (·.id) := w.listed member
  have part : under.Sublist s.messages := List.filter_sublist
  refine ⟨?_, under.map (·.seq), ?_, ?_⟩
  · rw [list]
    exact w.ids.sublist (part.map _)
  · rw [list, List.map_map, List.map_map]
    exact List.map_congr_left fun m hm => w.keyed.seqOf (part.subset hm)
  · exact List.pairwise_map.mpr (w.ordered.sublist part)

theorem WellFormed.consistent (w : WellFormed s) : Consistent s where
  oneRowPerKey := by
    refine ⟨w.ordered, ?_, w.claims⟩
    rw [w.keyed.indexed, List.map_map]
    exact w.ids
  indexed := w.keyed.indexIff
  below := w.below
  held m member c := w.heldIff member c
  listed h member := w.listInOrder member
  covered m member c h under found := by
    obtain ⟨hh, rfl⟩ := holdSource found
    exact w.outlives member hh under
  lasting := w.lasting

theorem reachedConsistent (calls : List Call) (fresh : FreshIds calls) :
    Consistent (empty.run calls) :=
  (reachedWellFormed fresh).consistent

theorem consistentAgainstTheClock :
    let calls : List Call := [
      ⟨⟨"a"⟩, 500, .named ["m", "n"] "", .post [⟨.ofSeconds 60, .null⟩, ⟨.ofSeconds 90, .null⟩]⟩,
      ⟨⟨"b"⟩, 200, .named [] "c", .claim ⟨.ofSeconds 60, .ofSeconds 60, 1⟩⟩,
      ⟨⟨"b"⟩, 100, .named [] "", .renew ⟨"c"⟩ (.ofSeconds 120) (.ofSeconds 60)⟩,
      ⟨⟨"a"⟩, 300, .named [] "", .deleteMany [⟨"n"⟩]⟩]
    FreshIds calls ∧ Consistent (empty.run calls) :=
  ⟨by decide, reachedConsistent _ (by decide)⟩

end CloudClient.Queue.Store
