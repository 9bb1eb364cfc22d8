import CloudClient.Proofs.Queue.Loops
/-! What each operation that changes the store leaves, on a store that is well formed. Every one of them
purges first and then works on a store without lapsed claims; the results are well formed again. -/
namespace CloudClient.Queue

theorem filterChosen {α κ : Type} [DecidableEq κ] {key : α → κ} {chosen rows : List α}
    (part : chosen.Sublist rows) (unique : (rows.map key).Nodup) :
    rows.filter (fun row => decide (key row ∈ chosen.map key)) = chosen := by
  induction part with
  | slnil => rfl
  | @cons chosen rows row part ih =>
    obtain ⟨absent, unique⟩ := List.nodup_cons.mp unique
    have other : key row ∉ chosen.map key := fun h => absent ((part.map key).subset h)
    rw [List.filter_cons_of_neg (by simpa using other), ih unique]
  | @cons_cons chosen rows row part ih =>
    obtain ⟨absent, unique⟩ := List.nodup_cons.mp unique
    rw [List.filter_cons_of_pos (by simp)]
    congr 1
    refine Eq.trans (List.filter_congr fun other member => ?_) (ih unique)
    have differ : key other ≠ key row := fun h => absent (h ▸ List.mem_map_of_mem member)
    simp only [List.map_cons, List.mem_cons, differ, false_or]

namespace Store

variable {s : Store}

def enqueued (author : ClientId) (now seq : Nat) (id : MessageId) (d : Draft) : Stored :=
  { seq, id, body := d.body, author, ttl := d.ttl, created := now, expires := now + d.ttl.nanos,
    claim := none }

def queued (author : ClientId) (now : Nat) : Nat → List (MessageId × Draft) → List Stored
  | _, [] => []
  | seq, (id, d) :: rest => enqueued author now seq id d :: queued author now (seq + 1) rest

theorem WellFormed.append (w : WellFormed s) {author : ClientId} {now : Nat} {id : MessageId} {d : Draft}
    (fresh : id ∉ s.messages.map (·.id)) : WellFormed (s.append author now id d) := by
  have unused : ∀ m ∈ s.messages, m.id ≠ id := fun m member same =>
    fresh (List.mem_map.mpr ⟨m, member, same⟩)
  have determined : (s.append author now id d).rebuilt = s.append author now id d := by
    refine determinedOf ?_ fun h member => ?_
    · simpa [Store.append, w.keyed.indexed] using unused
    · simpa [Store.append, heldBy] using w.listed member
  refine ⟨⟨?_, ?_, ?_, w.claims, ?_, ?_⟩, determined⟩
  · simpa [Store.append, List.nodup_append] using ⟨w.ids, unused⟩
  · simpa [Store.append, List.pairwise_append] using ⟨w.ordered, w.below⟩
  · intro m member
    rcases List.mem_append.mp member with old | new
    · exact Nat.lt_succ_of_lt (w.below m old)
    · cases List.mem_singleton.mp new
      exact Nat.lt_succ_self _
  · intro m member c under
    rcases List.mem_append.mp member with old | new
    · exact w.backed m old c under
    · cases List.mem_singleton.mp new
      cases under
  · intro m member
    rcases List.mem_append.mp member with old | new
    · exact w.lasting m old
    · cases List.mem_singleton.mp new
      exact Nat.le_refl _

theorem WellFormed.appendEach (w : WellFormed s) (author : ClientId) (now : Nat)
    {batch : List (MessageId × Draft)} (distinct : (batch.map (·.1)).Nodup)
    (fresh : ∀ id ∈ batch.map (·.1), id ∉ s.messages.map (·.id)) :
    let t := batch.foldl (fun s (id, d) => s.append author now id d) s
    WellFormed t ∧ t.messages = s.messages ++ queued author now s.nextSeq batch ∧ t.holds = s.holds ∧
      t.nextSeq = s.nextSeq + batch.length := by
  induction batch generalizing s with
  | nil => simpa [queued] using w
  | cons entry rest ih =>
    obtain ⟨id, d⟩ := entry
    simp only [List.map_cons, List.nodup_cons] at distinct
    have first : WellFormed (s.append author now id d) := w.append (fresh id (by simp))
    have later : ∀ i ∈ rest.map (·.1), i ∉ (s.append author now id d).messages.map (·.id) := by
      intro i member
      have old := fresh i (by simp [member])
      have new : i ≠ id := fun h => distinct.1 (h ▸ member)
      simpa [Store.append, new] using old
    obtain ⟨well, messages, holds, next⟩ := ih first distinct.2 later
    refine ⟨well, ?_, holds, ?_⟩
    · simpa [Store.append, queued, enqueued] using messages
    · simpa [Store.append, Nat.add_assoc, Nat.add_comm 1] using next

def chosen (s : Store) (limit : Nat) : List Stored := (s.messages.filter (·.claim.isNone)).take limit

theorem chosenPart (s : Store) (limit : Nat) : (s.chosen limit).Sublist s.messages :=
  (List.take_sublist _ _).trans List.filter_sublist

theorem chosenFree {limit : Nat} {m : Stored} (member : m ∈ s.chosen limit) : m.claim = none := by
  simpa using (List.mem_filter.mp (List.mem_of_mem_take member)).2

def granting (c : ClaimId) (time : Nat) (seqs : List Nat) (m : Stored) : Stored :=
  if m.seq ∈ seqs then m.takenBy c time else m

theorem grantingId (c : ClaimId) (time : Nat) (seqs : List Nat) (m : Stored) :
    (granting c time seqs m).id = m.id := by
  unfold granting
  split <;> rfl

theorem grantingSeq (c : ClaimId) (time : Nat) (seqs : List Nat) (m : Stored) :
    (granting c time seqs m).seq = m.seq := by
  unfold granting
  split <;> rfl

def granted (s : Store) (now : Nat) (c : ClaimId) (request : ClaimRequest) (taken : List Stored) : Store :=
  { s with
    messages := s.messages.map (granting c (now + request.hold.nanos) (taken.map (·.seq)))
    holds := s.holds ++ [⟨c, request.ttl, request.grace, now, taken.map (·.id)⟩] }

theorem WellFormed.grant (w : WellFormed s) (now : Nat) {c : ClaimId} (request : ClaimRequest)
    {taken : List Stored} (part : taken.Sublist s.messages) (fresh : c ∉ s.holds.map (·.id)) :
    s.grant now c request (taken.map (·.seq)) =
      (taken.map (·.id), s.granted now c request taken) := by
  let change := granting c (now + request.hold.nanos) (taken.map (·.seq))
  let changed : Store := { s with messages := s.messages.map change }
  have looped : (taken.map (·.seq)).foldl
      (fun s seq => s.modifyAt seq (Stored.takenBy c (now + request.hold.nanos))) s = changed :=
    modifyAtEach (f := Stored.takenBy c _) (fun _ => rfl) (Stored.takenByTwice c _) _
  have keyed : Keyed changed := w.keyed.mapped (grantingId c _ _) (grantingSeq c _ _)
  have claimed : (taken.map (·.seq)).filterMap (fun seq => (changed.messageAt? seq).map (·.id)) =
      taken.map (·.id) := by
    rw [List.filterMap_map, ← List.filterMap_eq_map]
    refine List.filterMap_congr fun m member => ?_
    have moved : change m ∈ changed.messages := List.mem_map_of_mem (part.subset member)
    have found := keyed.messageAt moved
    rw [grantingSeq] at found
    simp only [Function.comp_apply, found, Option.map_some, change, grantingId]
  have others : changed.holds.filter (·.id != c) = s.holds := by
    refine List.filter_eq_self.mpr fun h member => ?_
    have different : h.id ≠ c := fun same => fresh (List.mem_map.mpr ⟨h, member, same⟩)
    simpa using different
  unfold Store.grant
  dsimp only
  rw [looped, claimed, others]
  rfl

theorem grantingClaim (c : ClaimId) (time : Nat) (seqs : List Nat) (m : Stored) :
    (granting c time seqs m).claim = if m.seq ∈ seqs then some c else m.claim := by
  unfold granting
  split <;> rfl

theorem grantingLater (c : ClaimId) (time : Nat) (seqs : List Nat) (m : Stored) :
    m.expires ≤ (granting c time seqs m).expires := by
  unfold granting
  split
  · exact Nat.le_max_left _ _
  · exact Nat.le_refl _

theorem grantingTimes (c : ClaimId) (time : Nat) (seqs : List Nat) (m : Stored) :
    (granting c time seqs m).created = m.created ∧ (granting c time seqs m).ttl = m.ttl := by
  unfold granting
  split <;> exact ⟨rfl, rfl⟩

theorem heldByGranting (k : Keyed s) {c : ClaimId} {time : Nat} {taken : List Stored}
    (part : taken.Sublist s.messages) (unheld : ∀ m ∈ s.messages, m.claim ≠ some c) :
    heldBy (s.messages.map (granting c time (taken.map (·.seq)))) c = taken.map (·.id) := by
  have under : ∀ m ∈ s.messages, decide ((granting c time (taken.map (·.seq)) m).claim = some c) =
      decide (m.seq ∈ taken.map (·.seq)) := by
    intro m member
    rw [grantingClaim]
    split <;> simp_all
  simp only [heldBy, List.filter_map, List.map_map, Function.comp_def, grantingId]
  rw [List.filter_congr under, filterChosen part k.seqs]

theorem heldByOthers (k : Keyed s) {c d : ClaimId} {time : Nat} {taken : List Stored}
    (part : taken.Sublist s.messages) (free : ∀ m ∈ taken, m.claim = none) (different : d ≠ c) :
    heldBy (s.messages.map (granting c time (taken.map (·.seq)))) d = heldBy s.messages d := by
  have under : ∀ m ∈ s.messages, decide ((granting c time (taken.map (·.seq)) m).claim = some d) =
      decide (m.claim = some d) := by
    intro m member
    rw [grantingClaim]
    split
    · rename_i listed
      obtain ⟨n, hn, same⟩ := List.mem_map.mp listed
      rw [k.sameSeq (part.subset hn) member same] at hn
      simp [free m hn, different.symm]
    · rfl
  simp only [heldBy, List.filter_map, List.map_map, Function.comp_def, grantingId]
  rw [List.filter_congr under]

theorem WellFormed.backedGranting (w : WellFormed s) (now : Nat) (c : ClaimId) (request : ClaimRequest)
    (taken : List Stored) :
    ∀ m ∈ (s.granted now c request taken).messages, ∀ d, m.claim = some d →
      ∃ h ∈ (s.granted now c request taken).holds, h.id = d ∧ h.until ≤ m.expires := by
  intro m member d under
  obtain ⟨n, hn, rfl⟩ := List.mem_map.mp member
  rw [grantingClaim] at under
  split at under
  · rename_i listed
    cases Option.some.inj under
    refine ⟨⟨c, request.ttl, request.grace, now, taken.map (·.id)⟩, by simp [Store.granted], rfl, ?_⟩
    simp only [granting, if_pos listed, Stored.takenBy, Stored.keptUntil, Hold.until]
    exact Nat.le_trans (by simp [ClaimRequest.hold, Nat.add_assoc]) (Nat.le_max_right _ _)
  · obtain ⟨h, hh, same, reach⟩ := w.backed n hn d under
    exact ⟨h, List.mem_append_left _ hh, same, Nat.le_trans reach (grantingLater _ _ _ n)⟩

theorem WellFormed.granted (w : WellFormed s) (now : Nat) {c : ClaimId} (request : ClaimRequest)
    {taken : List Stored} (part : taken.Sublist s.messages) (free : ∀ m ∈ taken, m.claim = none)
    (fresh : c ∉ s.holds.map (·.id)) : WellFormed (s.granted now c request taken) := by
  have unheld : ∀ m ∈ s.messages, m.claim ≠ some c := by
    intro m member under
    obtain ⟨h, hh, same, _⟩ := w.backed m member c under
    exact fresh (List.mem_map.mpr ⟨h, hh, same⟩)
  have determined : (s.granted now c request taken).rebuilt = s.granted now c request taken := by
    refine determinedOf ?_ fun h member => ?_
    · simp [Store.granted, w.keyed.indexed, Function.comp_def, grantingId, grantingSeq]
    · rcases List.mem_append.mp member with old | new
      · have different : h.id ≠ c := fun same => fresh (List.mem_map.mpr ⟨h, old, same⟩)
        rw [w.listed old]
        exact (heldByOthers w.keyed part free different).symm
      · cases List.mem_singleton.mp new
        exact (heldByGranting w.keyed part unheld).symm
  refine ⟨⟨?_, ?_, ?_, ?_, ?_, ?_⟩, determined⟩
  · simpa [Store.granted, Function.comp_def, grantingId] using w.ids
  · simpa [Store.granted, List.pairwise_map, grantingSeq] using w.ordered
  · simpa [Store.granted, grantingSeq] using w.below
  · simp only [Store.granted, List.map_append, List.map_cons, List.map_nil]
    refine List.nodup_append.mpr ⟨w.claims, List.nodup_singleton _, fun d old e new same => ?_⟩
    cases List.mem_singleton.mp new
    exact fresh (same ▸ old)
  · exact w.backedGranting now c request taken
  · intro m member
    obtain ⟨n, hn, rfl⟩ := List.mem_map.mp member
    obtain ⟨created, ttl⟩ := grantingTimes c (now + request.hold.nanos) (taken.map (·.seq)) n
    rw [created, ttl]
    exact Nat.le_trans (w.lasting n hn) (grantingLater _ _ _ n)

def renewing (h : Hold) (m : Stored) : Stored :=
  if m.claim = some h.id then m.keptUntil h.until else m

theorem renewingSame (h : Hold) (m : Stored) :
    (renewing h m).id = m.id ∧ (renewing h m).seq = m.seq ∧ (renewing h m).claim = m.claim ∧
      (renewing h m).created = m.created ∧ (renewing h m).ttl = m.ttl := by
  unfold renewing
  split <;> exact ⟨rfl, rfl, rfl, rfl, rfl⟩

theorem renewingLater (h : Hold) (m : Stored) : m.expires ≤ (renewing h m).expires := by
  unfold renewing
  split
  · exact Nat.le_max_left _ _
  · exact Nat.le_refl _

def renewed (s : Store) (h : Hold) : Store :=
  { s with
    messages := s.messages.map (renewing h)
    holds := s.holds.map fun other => if other.id = h.id then h else other }

theorem renewedClaims (s : Store) (h : Hold) : (s.renewed h).holds.map (·.id) = s.holds.map (·.id) := by
  simp only [renewed, List.map_map]
  refine List.map_congr_left fun other _ => ?_
  simp only [Function.comp_apply]
  split
  · rename_i same
    exact same.symm
  · rfl

variable {g h : Hold}

theorem WellFormed.extend (w : WellFormed s) (member : g ∈ s.holds) (sameId : h.id = g.id)
    (sameList : h.messages = g.messages) : s.extend h = s.renewed h := by
  have keyed : Keyed { s with holds := s.holds.map fun other => if other.id = h.id then h else other } :=
    ⟨w.keyed.indexed, w.ids, w.ordered⟩
  unfold Store.extend
  rw [keyed.modifyEach (f := Stored.keptUntil h.until) (fun _ => rfl) (fun _ => rfl)
    (Stored.keptUntilTwice _)]
  unfold Store.renewed
  congr 1
  refine List.map_congr_left fun m hm => ?_
  rw [renewing, sameList, sameId]
  simp only [w.listedIff member hm]

theorem WellFormed.renewed (w : WellFormed s) (member : g ∈ s.holds) (sameId : h.id = g.id)
    (sameList : h.messages = g.messages) : WellFormed (s.renewed h) := by
  have lists : ∀ c, heldBy (s.messages.map (renewing h)) c = heldBy s.messages c := by
    intro c
    simp [heldBy, List.filter_map, Function.comp_def, renewingSame]
  have determined : (s.renewed h).rebuilt = s.renewed h := by
    refine determinedOf ?_ fun other hother => ?_
    · simp [Store.renewed, w.keyed.indexed, Function.comp_def, renewingSame]
    · obtain ⟨old, hold, rfl⟩ := List.mem_map.mp hother
      simp only [Store.renewed, lists]
      split
      · rw [sameList, sameId, w.listed member]
      · exact w.listed hold
  refine ⟨⟨?_, ?_, ?_, ?_, ?_, ?_⟩, determined⟩
  · simpa [Store.renewed, Function.comp_def, renewingSame] using w.ids
  · simpa [Store.renewed, List.pairwise_map, renewingSame] using w.ordered
  · simpa [Store.renewed, renewingSame] using w.below
  · rw [renewedClaims]
    exact w.claims
  · intro m hm c under
    obtain ⟨n, hn, rfl⟩ := List.mem_map.mp hm
    rw [(renewingSame h n).2.2.1] at under
    obtain ⟨old, hold, rfl, reach⟩ := w.backed n hn c under
    by_cases same : old.id = h.id
    · refine ⟨h, List.mem_map.mpr ⟨old, hold, if_pos same⟩, same.symm, ?_⟩
      rw [renewing, if_pos (same ▸ under)]
      exact Nat.le_max_right _ _
    · exact ⟨old, List.mem_map.mpr ⟨old, hold, if_neg same⟩, rfl, Nat.le_trans reach (renewingLater h n)⟩
  · intro m hm
    obtain ⟨n, hn, rfl⟩ := List.mem_map.mp hm
    obtain ⟨_, _, _, created, ttl⟩ := renewingSame h n
    rw [created, ttl]
    exact Nat.le_trans (w.lasting n hn) (renewingLater h n)

end Store
end CloudClient.Queue
