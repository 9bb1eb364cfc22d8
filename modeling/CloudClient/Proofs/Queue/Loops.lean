import CloudClient.Proofs.Queue.WellFormed
/-! What the loops of the store come to on a store that is well formed, each in one expression: a loop
over ids changes the messages that carry them, and the store that it leaves is the rebuilt one. -/
namespace CloudClient.Queue

theorem Stored.freedFromTwice (c : ClaimId) (m : Stored) :
    (m.freedFrom c).freedFrom c = m.freedFrom c := by
  unfold freedFrom
  by_cases under : m.claim = some c <;> simp [under]

theorem Stored.keptUntilTwice (t : Nat) (m : Stored) : (m.keptUntil t).keptUntil t = m.keptUntil t := by
  simp [keptUntil]

theorem Stored.takenByTwice (c : ClaimId) (t : Nat) (m : Stored) :
    (m.takenBy c t).takenBy c t = m.takenBy c t := by
  simp [takenBy, keptUntil]

def Stored.unclaimed (ended : ClaimId → Bool) (m : Stored) : Stored :=
  { m with claim := m.claim.filter (!ended ·) }

theorem Stored.freedFromEq (c : ClaimId) (m : Stored) : m.freedFrom c = m.unclaimed (· == c) := by
  obtain ⟨seq, id, body, author, ttl, created, expires, claim⟩ := m
  cases claim with
  | none => simp [freedFrom, unclaimed]
  | some d => by_cases same : d = c <;> simp [freedFrom, unclaimed, Option.filter, same]

theorem Stored.unclaimedNone (m : Stored) : (m.unclaimed fun _ => false) = m := by
  obtain ⟨seq, id, body, author, ttl, created, expires, claim⟩ := m
  cases claim <;> rfl

theorem Stored.unclaimedTwice (p q : ClaimId → Bool) (m : Stored) :
    (m.unclaimed p).unclaimed q = m.unclaimed fun c => p c || q c := by
  unfold unclaimed
  cases m.claim with
  | none => rfl
  | some c => cases hp : p c <;> simp [Option.filter, hp]

namespace Store

variable {s : Store}

theorem determinedOf {t : Store} (index : t.index = t.messages.map fun m => (m.id, m.seq))
    (lists : ∀ h ∈ t.holds, h.messages = heldBy t.messages h.id) : t.rebuilt = t := by
  have same : t.holds.map (listing t.messages) = t.holds := by
    refine (List.map_congr_left fun h member => ?_).trans (List.map_id _)
    simp only [listing, ← lists h member, id]
  unfold rebuilt
  rw [← index, same]

theorem Keyed.mapped (k : Keyed s) {f : Stored → Stored} (sameId : ∀ m, (f m).id = m.id)
    (sameSeq : ∀ m, (f m).seq = m.seq) : Keyed { s with messages := s.messages.map f } := by
  refine ⟨?_, ?_, ?_⟩
  · simp [k.indexed, Function.comp_def, sameId, sameSeq]
  · simpa [Function.comp_def, sameId] using k.ids
  · simpa [List.pairwise_map, sameSeq] using k.ordered

theorem Keyed.modify (k : Keyed s) (id : MessageId) (f : Stored → Stored) :
    s.modify id f = { s with messages := s.messages.map fun m => if m.id = id then f m else m } := by
  unfold Store.modify
  cases found : s.seqOf? id with
  | none =>
    have absent := k.seqOfNone.mp found
    have same : (s.messages.map fun m => if m.id = id then f m else m) = s.messages :=
      (List.map_congr_left fun m member => if_neg (absent m member)).trans (List.map_id' _)
    rw [same]
  | some seq =>
    obtain ⟨m, member, rfl, rfl⟩ := k.seqOfSource found
    simp only [modifyAt]
    congr 1
    exact List.map_congr_left fun n hn => by simp only [k.idIffSeq hn member]

theorem Keyed.modifyEach (k : Keyed s) {f : Stored → Stored} (sameId : ∀ m, (f m).id = m.id)
    (sameSeq : ∀ m, (f m).seq = m.seq) (twice : ∀ m, f (f m) = f m) (ids : List MessageId) :
    ids.foldl (fun s id => s.modify id f) s =
      { s with messages := s.messages.map fun m => if m.id ∈ ids then f m else m } := by
  induction ids generalizing s with
  | nil => simp
  | cons id ids ih =>
    have first : Keyed { s with messages := s.messages.map fun m => if m.id = id then f m else m } :=
      k.mapped (fun m => by split <;> simp [sameId]) (fun m => by split <;> simp [sameSeq])
    rw [List.foldl_cons, k.modify, ih first, List.map_map]
    congr 1
    refine List.map_congr_left fun m _ => ?_
    by_cases here : m.id = id <;> by_cases later : m.id ∈ ids <;>
      simp_all

theorem modifyAtEach {f : Stored → Stored} (sameSeq : ∀ m, (f m).seq = m.seq)
    (twice : ∀ m, f (f m) = f m) (seqs : List Nat) :
    seqs.foldl (fun s seq => s.modifyAt seq f) s =
      { s with messages := s.messages.map fun m => if m.seq ∈ seqs then f m else m } := by
  induction seqs generalizing s with
  | nil => simp
  | cons seq seqs ih =>
    rw [List.foldl_cons, ih, modifyAt, List.map_map]
    congr 1
    refine List.map_congr_left fun m _ => ?_
    by_cases here : m.seq = seq <;> by_cases later : m.seq ∈ seqs <;>
      simp_all

def dismissed (s : Store) (ended : ClaimId → Bool) : Store :=
  rebuilt { s with
    messages := s.messages.map (Stored.unclaimed ended)
    holds := s.holds.filter (!ended ·.id) }

theorem WellFormed.dismissed (w : WellFormed s) (ended : ClaimId → Bool) :
    WellFormed (s.dismissed ended) := by
  refine Sound.rebuilt ⟨?_, ?_, ?_, ?_, ?_, ?_⟩
  · simpa [Function.comp_def, Stored.unclaimed] using w.ids
  · simpa [List.pairwise_map, Stored.unclaimed] using w.ordered
  · simpa [Stored.unclaimed] using w.below
  · exact w.claims.sublist (List.filter_sublist.map _)
  · intro m member c under
    obtain ⟨n, hn, rfl⟩ := List.mem_map.mp member
    obtain ⟨held, lasts⟩ := Option.filter_eq_some_iff.mp under
    obtain ⟨h, hh, rfl, reach⟩ := w.backed n hn c held
    exact ⟨h, List.mem_filter.mpr ⟨hh, lasts⟩, rfl, reach⟩
  · simpa [Stored.unclaimed] using w.lasting

theorem heldByUnclaimed (messages : List Stored) {ended : ClaimId → Bool} {c : ClaimId}
    (lasts : ended c = false) :
    heldBy (messages.map (Stored.unclaimed ended)) c = heldBy messages c := by
  simp [heldBy, List.filter_map, Function.comp_def, Stored.unclaimed, lasts]

theorem dismissedNone (w : WellFormed s) : s.dismissed (fun _ => false) = s := by
  have same : s.messages.map (Stored.unclaimed fun _ => false) = s.messages :=
    (List.map_congr_left fun m _ => m.unclaimedNone).trans (List.map_id _)
  simpa [dismissed, same] using w.determined

theorem dismissedTwice (s : Store) (p q : ClaimId → Bool) :
    (s.dismissed p).dismissed q = s.dismissed fun c => p c || q c := by
  simp [dismissed, rebuilt, listing, Function.comp_def, Stored.unclaimedTwice, List.filter_map,
    Bool.and_comm]

theorem WellFormed.free (w : WellFormed s) (c : ClaimId) : s.free c = s.dismissed (· == c) := by
  unfold Store.free
  cases found : s.hold? c with
  | none =>
    have absent := holdNone.mp found
    have unheld : ∀ m ∈ s.messages, m.claim ≠ some c := by
      intro m member under
      obtain ⟨h, hh, named, _⟩ := w.backed m member c under
      exact absent h hh named
    have messages : s.messages.map (Stored.unclaimed (· == c)) = s.messages := by
      refine (List.map_congr_left fun m member => ?_).trans (List.map_id _)
      rw [← Stored.freedFromEq, Stored.freedFrom, if_neg (unheld m member), id]
    have holds : s.holds.filter (fun h => !(h.id == c)) = s.holds :=
      List.filter_eq_self.mpr fun h member => by simpa using absent h member
    rw [Store.dismissed, messages, holds, w.determined]
  | some h =>
    obtain ⟨member, rfl⟩ := holdSource found
    have keyed : Keyed { s with holds := s.holds.filter (·.id != h.id) } :=
      ⟨w.keyed.indexed, w.ids, w.ordered⟩
    have same : ∀ m ∈ s.messages,
        (if m.id ∈ h.messages then m.freedFrom h.id else m) = m.unclaimed (· == h.id) := by
      intro m hm
      rw [← Stored.freedFromEq]
      split
      · rfl
      · rename_i unlisted
        rw [Stored.freedFrom, if_neg fun under => unlisted ((w.listedIff member hm).mpr under)]
    dsimp only
    rw [keyed.modifyEach (fun m => by unfold Stored.freedFrom; split <;> rfl)
      (fun m => by unfold Stored.freedFrom; split <;> rfl) (Stored.freedFromTwice h.id)]
    simp only [List.map_congr_left same, Store.dismissed]
    refine (determinedOf ?_ ?_).symm
    · simp [w.keyed.indexed, Function.comp_def, Stored.unclaimed]
    · intro g hg
      obtain ⟨hg, other⟩ := List.mem_filter.mp hg
      rw [heldByUnclaimed s.messages (by simpa using other)]
      exact w.listed hg

theorem WellFormed.freeEach (w : WellFormed s) (cs : List ClaimId) :
    cs.foldl Store.free s = s.dismissed (cs.contains ·) := by
  induction cs generalizing s with
  | nil => simpa using (dismissedNone w).symm
  | cons c cs ih =>
    rw [List.foldl_cons, w.free, ih (w.dismissed _), dismissedTwice]
    simp only [List.contains_cons]

def kept (s : Store) (keep : Stored → Bool) : Store :=
  rebuilt { s with messages := s.messages.filter keep }

theorem WellFormed.kept (w : WellFormed s) (keep : Stored → Bool) : WellFormed (s.kept keep) := by
  have part : ∀ m ∈ s.messages.filter keep, m ∈ s.messages := fun m h => (List.mem_filter.mp h).1
  exact Sound.rebuilt ⟨w.ids.sublist (List.filter_sublist.map _), w.ordered.filter _,
    fun m h => w.below m (part m h), w.claims, fun m h => w.backed m (part m h),
    fun m h => w.lasting m (part m h)⟩

theorem keptAll (w : WellFormed s) : s.kept (fun _ => true) = s := by
  simpa [kept] using w.determined

theorem keptTwice (s : Store) (p q : Stored → Bool) : (s.kept p).kept q = s.kept fun m => p m && q m := by
  simp [kept, rebuilt, listing, Function.comp_def, List.filter_filter, Bool.and_comm]

theorem keptCongr {p q : Stored → Bool} (same : ∀ m ∈ s.messages, p m = q m) : s.kept p = s.kept q := by
  unfold kept
  rw [List.filter_congr same]

theorem WellFormed.remove (w : WellFormed s) (seq : Nat) : s.remove seq = s.kept (·.seq != seq) := by
  unfold Store.remove
  cases found : s.messageAt? seq with
  | none =>
    have absent : ∀ m ∈ s.messages, (m.seq != seq) = true := by
      simpa [messageAt?] using found
    rw [keptCongr absent, keptAll w]
  | some m =>
    obtain ⟨member, rfl⟩ := messageAtSource found
    have same : ∀ n ∈ s.messages, (n.id != m.id) = (n.seq != m.seq) := fun n hn => by
      rw [Bool.eq_iff_iff, bne_iff_ne, bne_iff_ne, ne_eq, ne_eq, w.keyed.idIffSeq hn member]
    dsimp only [Store.kept]
    refine (determinedOf ?_ ?_).symm.trans ?_
    · simp only [w.keyed.indexed, List.filter_map, Function.comp_def]
      rw [List.filter_congr same]
    · intro h hh
      obtain ⟨g, hg, rfl⟩ := List.mem_map.mp hh
      by_cases under : m.claim = some g.id
      · simp only [if_pos under, w.listed hg, heldBy, List.filter_map, Function.comp_def]
        rw [← List.filter_congr same, List.filter_comm]
      · simp only [if_neg under, w.listed hg, heldBy, List.filter_filter]
        refine congrArg _ (List.filter_congr fun n hn => ?_)
        by_cases eq : n.seq = m.seq
        · simp [w.keyed.sameSeq hn member eq, under]
        · simp [eq]
    · simp only [rebuilt, List.map_map]
      congr 1
      refine List.map_congr_left fun g _ => ?_
      simp only [Function.comp_apply]
      split <;> rfl

theorem WellFormed.removeEach (w : WellFormed s) (seqs : List Nat) :
    seqs.foldl Store.remove s = s.kept (!seqs.contains ·.seq) := by
  induction seqs generalizing s with
  | nil => simpa using (keptAll w).symm
  | cons seq seqs ih =>
    rw [List.foldl_cons, w.remove, ih (w.kept _), keptTwice]
    simp only [List.contains_cons, Bool.not_or]
    rfl

theorem WellFormed.erase (w : WellFormed s) (id : MessageId) : s.erase id = s.kept (·.id != id) := by
  unfold Store.erase
  cases found : s.seqOf? id with
  | none =>
    have absent : ∀ m ∈ s.messages, (m.id != id) = true := fun m member => by
      simpa using w.keyed.seqOfNone.mp found m member
    rw [keptCongr absent, keptAll w]
  | some seq =>
    obtain ⟨m, member, rfl, rfl⟩ := w.keyed.seqOfSource found
    dsimp only
    rw [w.remove]
    refine keptCongr fun n hn => ?_
    rw [Bool.eq_iff_iff, bne_iff_ne, bne_iff_ne, ne_eq, ne_eq, w.keyed.idIffSeq hn member]

theorem WellFormed.eraseEach (w : WellFormed s) (ids : List MessageId) :
    ids.foldl Store.erase s = s.kept (!ids.contains ·.id) := by
  induction ids generalizing s with
  | nil => simpa using (keptAll w).symm
  | cons id ids ih =>
    rw [List.foldl_cons, w.erase, ih (w.kept _), keptTwice]
    simp only [List.contains_cons, Bool.not_or]
    rfl

theorem notDue (due now : Nat) : (!decide (due ≤ now)) = decide (now < due) := by
  rw [Bool.eq_iff_iff]
  simp

def settled (s : Store) (now : Nat) (m : Stored) : Stored := { m with claim := s.holder? m now }

def current (s : Store) (now : Nat) : Store :=
  rebuilt { s with
    messages := (s.live now).map (s.settled now)
    holds := s.holds.filter (now < ·.until) }

theorem WellFormed.holder (w : WellFormed s) {m : Stored} (member : m ∈ s.messages) {now : Nat}
    {c : ClaimId} :
    s.holder? m now = some c ↔ m.claim = some c ∧ ∃ h ∈ s.holds, h.id = c ∧ now < h.until := by
  simp only [holder?, Option.filter_eq_some_iff, liveHold?, Option.isSome_filter]
  refine and_congr_right fun under => ?_
  obtain ⟨h, hh, rfl, _⟩ := w.backed m member c under
  simp only [w.hold hh, Option.any_some, decide_eq_true_eq]
  constructor
  · intro lives
    exact ⟨h, hh, rfl, lives⟩
  · rintro ⟨g, hg, same, lives⟩
    rwa [← w.sameClaim hg hh same]

theorem WellFormed.lapsed (w : WellFormed s) {h : Hold} (member : h ∈ s.holds) (now : Nat) :
    ((s.holds.filter (·.until ≤ now)).map (·.id)).contains h.id = decide (h.until ≤ now) := by
  rw [Bool.eq_iff_iff, List.contains_iff_mem, List.mem_map, decide_eq_true_eq]
  constructor
  · rintro ⟨g, hg, same⟩
    obtain ⟨hg, ended⟩ := List.mem_filter.mp hg
    rw [← w.sameClaim hg member same]
    simpa using ended
  · intro ended
    exact ⟨h, List.mem_filter.mpr ⟨member, by simpa using ended⟩, rfl⟩

theorem WellFormed.unclaimedLapsed (w : WellFormed s) {m : Stored} (member : m ∈ s.messages)
    (now : Nat) :
    m.unclaimed (((s.holds.filter (·.until ≤ now)).map (·.id)).contains ·) = s.settled now m := by
  unfold Stored.unclaimed settled holder?
  congr 1
  cases under : m.claim with
  | none => rfl
  | some c =>
    obtain ⟨h, hh, rfl, _⟩ := w.backed m member c under
    simp only [Option.filter_some, w.lapsed hh, liveHold?, w.hold hh]
    by_cases ended : h.until ≤ now
    · simp [ended, Nat.not_lt.mpr ended]
    · simp [ended, Nat.lt_of_not_le ended]

theorem WellFormed.expired (w : WellFormed s) {m : Stored} (member : m ∈ s.messages) (now : Nat) :
    ((s.messages.filter (·.expires ≤ now)).map (·.seq)).contains m.seq = decide (m.expires ≤ now) := by
  rw [Bool.eq_iff_iff, List.contains_iff_mem, List.mem_map, decide_eq_true_eq]
  constructor
  · rintro ⟨n, hn, same⟩
    obtain ⟨hn, gone⟩ := List.mem_filter.mp hn
    rw [← w.keyed.sameSeq hn member same]
    simpa using gone
  · intro gone
    exact ⟨m, List.mem_filter.mpr ⟨member, by simpa using gone⟩, rfl⟩

theorem WellFormed.purge (w : WellFormed s) (now : Nat) : s.purge now = s.current now := by
  let ended : ClaimId → Bool := ((s.holds.filter (·.until ≤ now)).map (·.id)).contains
  have unlapsed : s.holds.filter (!ended ·.id) = s.holds.filter (now < ·.until) :=
    List.filter_congr fun h member => by
      simp only [ended, w.lapsed member, notDue]
  have messages : s.messages.map (Stored.unclaimed ended) = s.messages.map (s.settled now) :=
    List.map_congr_left fun m member => w.unclaimedLapsed member now
  have first : ((s.holds.filter (·.until ≤ now)).map (·.id)).foldl Store.free s = s.dismissed ended :=
    w.freeEach _
  unfold Store.purge
  dsimp only
  rw [first, (w.dismissed ended).removeEach]
  have unexpired : ∀ m ∈ (s.dismissed ended).messages,
      (!(((s.dismissed ended).messages.filter (·.expires ≤ now)).map (·.seq)).contains m.seq) =
        decide (now < m.expires) := fun m member => by
    rw [(w.dismissed ended).expired member, notDue]
  rw [keptCongr unexpired]
  simp only [Store.kept, Store.dismissed, current, live, unlapsed, messages]
  simp only [rebuilt, List.filter_map, List.map_map]
  rfl

theorem WellFormed.purged (w : WellFormed s) (now : Nat) : WellFormed (s.purge now) := by
  unfold Store.purge
  dsimp only
  rw [w.freeEach, (w.dismissed _).removeEach]
  exact (w.dismissed _).kept _

end Store
end CloudClient.Queue
