import CloudClient.Queue.Store
import Mathlib.Data.List.Basic
import Mathlib.Data.List.Nodup
/-! A store keeps who holds what three times over: in the messages, in the index and on the lists of
the claims. The messages and the heads of the claims determine the rest, which `rebuilt` computes; a
store is well formed if rebuilding it changes nothing and its messages and claims are sound. -/
namespace CloudClient.Queue

theorem findByKey {α κ : Type} [DecidableEq κ] {key : α → κ} {rows : List α} {row : α}
    (unique : (rows.map key).Nodup) (member : row ∈ rows) :
    rows.find? (fun other => key other == key row) = some row := by
  cases found : rows.find? (fun other => key other == key row) with
  | none => simpa using List.find?_eq_none.mp found row member
  | some other =>
    have same : key other = key row := by simpa using List.find?_some found
    rw [List.inj_on_of_nodup_map unique (List.mem_of_find?_eq_some found) member same]

namespace Store

def heldBy (messages : List Stored) (c : ClaimId) : List MessageId :=
  (messages.filter (·.claim = some c)).map (·.id)

def listing (messages : List Stored) (h : Hold) : Hold := { h with messages := heldBy messages h.id }

def rebuilt (s : Store) : Store :=
  { s with
    index := s.messages.map fun m => (m.id, m.seq)
    holds := s.holds.map (listing s.messages) }

theorem rebuiltTwice (s : Store) : s.rebuilt.rebuilt = s.rebuilt := by
  simp [rebuilt, listing]

structure Keyed (s : Store) : Prop where
  indexed : s.index = s.messages.map fun m => (m.id, m.seq)
  ids : (s.messages.map (·.id)).Nodup
  ordered : s.messages.Pairwise (·.seq < ·.seq)

structure Sound (s : Store) : Prop where
  ids : (s.messages.map (·.id)).Nodup
  ordered : s.messages.Pairwise (·.seq < ·.seq)
  below : ∀ m ∈ s.messages, m.seq < s.nextSeq
  claims : (s.holds.map (·.id)).Nodup
  backed : ∀ m ∈ s.messages, ∀ c, m.claim = some c → ∃ h ∈ s.holds, h.id = c ∧ h.until ≤ m.expires
  lasting : ∀ m ∈ s.messages, m.created + m.ttl.nanos ≤ m.expires

structure WellFormed (s : Store) : Prop extends Sound s where
  determined : s.rebuilt = s

theorem emptyWellFormed : WellFormed empty := by
  refine ⟨⟨?_, ?_, ?_, ?_, ?_, ?_⟩, rfl⟩ <;> simp [empty]

theorem Sound.rebuilt {s : Store} (sound : Sound s) : WellFormed s.rebuilt := by
  refine ⟨⟨sound.ids, sound.ordered, sound.below, ?_, ?_, sound.lasting⟩, rebuiltTwice s⟩
  · simpa [Store.rebuilt, listing, Function.comp_def] using sound.claims
  · intro m member c under
    obtain ⟨h, mem, named, reach⟩ := sound.backed m member c under
    exact ⟨listing s.messages h, List.mem_map.mpr ⟨h, mem, rfl⟩, named, reach⟩

variable {s : Store}

theorem WellFormed.keyed (w : WellFormed s) : Keyed s :=
  ⟨(congrArg Store.index w.determined).symm, w.ids, w.ordered⟩

theorem WellFormed.listed (w : WellFormed s) {h : Hold} (member : h ∈ s.holds) :
    h.messages = heldBy s.messages h.id := by
  have same : s.holds.map (listing s.messages) = s.holds := congrArg Store.holds w.determined
  rw [← same] at member
  obtain ⟨original, _, rfl⟩ := List.mem_map.mp member
  rfl

theorem WellFormed.listedIff (w : WellFormed s) {h : Hold} (hh : h ∈ s.holds) {m : Stored}
    (hm : m ∈ s.messages) : m.id ∈ h.messages ↔ m.claim = some h.id := by
  rw [w.listed hh, heldBy, List.mem_map]
  constructor
  · rintro ⟨n, hn, same⟩
    obtain ⟨hn, under⟩ := List.mem_filter.mp hn
    rw [← List.inj_on_of_nodup_map w.ids hn hm same]
    simpa using under
  · intro under
    exact ⟨m, List.mem_filter.mpr ⟨hm, by simpa using under⟩, rfl⟩

theorem Keyed.seqs (k : Keyed s) : (s.messages.map (·.seq)).Nodup :=
  List.pairwise_map.mpr (k.ordered.imp Nat.ne_of_lt)

theorem Keyed.sameId (k : Keyed s) {m n : Stored} (hm : m ∈ s.messages) (hn : n ∈ s.messages)
    (same : m.id = n.id) : m = n :=
  List.inj_on_of_nodup_map k.ids hm hn same

theorem Keyed.sameSeq (k : Keyed s) {m n : Stored} (hm : m ∈ s.messages) (hn : n ∈ s.messages)
    (same : m.seq = n.seq) : m = n :=
  List.inj_on_of_nodup_map k.seqs hm hn same

theorem Keyed.idIffSeq (k : Keyed s) {m n : Stored} (hm : m ∈ s.messages) (hn : n ∈ s.messages) :
    m.id = n.id ↔ m.seq = n.seq :=
  ⟨fun h => by rw [k.sameId hm hn h], fun h => by rw [k.sameSeq hm hn h]⟩

theorem Keyed.messageAt (k : Keyed s) {m : Stored} (member : m ∈ s.messages) :
    s.messageAt? m.seq = some m :=
  findByKey k.seqs member

theorem messageAtSource {seq : Nat} {m : Stored} (found : s.messageAt? seq = some m) :
    m ∈ s.messages ∧ m.seq = seq :=
  ⟨List.mem_of_find?_eq_some found, by simpa using List.find?_some found⟩

theorem Keyed.seqOf (k : Keyed s) {m : Stored} (member : m ∈ s.messages) :
    s.seqOf? m.id = some m.seq := by
  have unique : (s.index.map Prod.fst).Nodup := by
    simpa [k.indexed, Function.comp_def] using k.ids
  have entry : (m.id, m.seq) ∈ s.index := by
    rw [k.indexed]
    exact List.mem_map.mpr ⟨m, member, rfl⟩
  simp only [seqOf?, findByKey unique entry, Option.map_some]

theorem Keyed.seqOfSource (k : Keyed s) {id : MessageId} {seq : Nat} (found : s.seqOf? id = some seq) :
    ∃ m ∈ s.messages, m.id = id ∧ m.seq = seq := by
  obtain ⟨entry, he, rfl⟩ := Option.map_eq_some_iff.mp found
  have member := List.mem_of_find?_eq_some he
  rw [k.indexed] at member
  obtain ⟨m, hm, rfl⟩ := List.mem_map.mp member
  exact ⟨m, hm, by simpa using List.find?_some he, rfl⟩

theorem Keyed.seqOfNone (k : Keyed s) {id : MessageId} :
    s.seqOf? id = none ↔ ∀ m ∈ s.messages, m.id ≠ id := by
  constructor
  · intro absent m member same
    simp [← same, k.seqOf member] at absent
  · intro absent
    cases found : s.seqOf? id with
    | none => rfl
    | some seq =>
      obtain ⟨m, member, same, _⟩ := k.seqOfSource found
      exact absurd same (absent m member)

theorem Keyed.stored (k : Keyed s) {m : Stored} (member : m ∈ s.messages) : s.stored? m.id = some m := by
  simp only [stored?, k.seqOf member, Option.bind_some, k.messageAt member]

theorem Keyed.storedIff (k : Keyed s) {id : MessageId} {m : Stored} :
    s.stored? id = some m ↔ m ∈ s.messages ∧ m.id = id := by
  constructor
  · intro found
    obtain ⟨seq, hs, hm⟩ := Option.bind_eq_some_iff.mp found
    obtain ⟨n, member, same, rfl⟩ := k.seqOfSource hs
    rw [k.messageAt member] at hm
    cases Option.some.inj hm
    exact ⟨member, same⟩
  · rintro ⟨member, rfl⟩
    exact k.stored member

theorem Sound.hold (sound : Sound s) {h : Hold} (member : h ∈ s.holds) : s.hold? h.id = some h :=
  findByKey sound.claims member

theorem holdSource {c : ClaimId} {h : Hold} (found : s.hold? c = some h) : h ∈ s.holds ∧ h.id = c :=
  ⟨List.mem_of_find?_eq_some found, by simpa using List.find?_some found⟩

theorem holdNone {c : ClaimId} : s.hold? c = none ↔ ∀ h ∈ s.holds, h.id ≠ c := by
  simp [hold?]

theorem Sound.sameClaim (sound : Sound s) {h g : Hold} (hh : h ∈ s.holds) (hg : g ∈ s.holds)
    (same : h.id = g.id) : h = g :=
  List.inj_on_of_nodup_map sound.claims hh hg same

theorem Sound.outlives (sound : Sound s) {m : Stored} (member : m ∈ s.messages) {h : Hold} (hh : h ∈ s.holds)
    (under : m.claim = some h.id) : h.until ≤ m.expires := by
  obtain ⟨g, hg, same, reach⟩ := sound.backed m member h.id under
  rwa [sound.sameClaim hg hh same] at reach

theorem Keyed.lookupIff (k : Keyed s) {id : MessageId} {now : Nat} {m : Stored} :
    s.lookup id now = some m ↔ m ∈ s.messages ∧ m.id = id ∧ now < m.expires := by
  simp [lookup, Option.filter_eq_some_iff, k.storedIff, and_assoc]

theorem Sound.liveHoldIff (sound : Sound s) {c : ClaimId} {now : Nat} {h : Hold} :
    s.liveHold? c now = some h ↔ h ∈ s.holds ∧ h.id = c ∧ now < h.until := by
  simp only [liveHold?, Option.filter_eq_some_iff, decide_eq_true_eq, ← and_assoc]
  refine and_congr_left fun _ => ⟨holdSource, ?_⟩
  rintro ⟨member, rfl⟩
  exact sound.hold member

theorem WellFormed.same {t : Store} (v : WellFormed s) (w : WellFormed t) (next : s.nextSeq = t.nextSeq)
    (messages : s.messages = t.messages) (holds : s.holds = t.holds) : s = t := by
  have index : s.index = t.index := by rw [v.keyed.indexed, w.keyed.indexed, messages]
  obtain ⟨a, b, c, d⟩ := s
  obtain ⟨a', b', c', d'⟩ := t
  simp_all

end Store
end CloudClient.Queue
