import CloudClient.Proofs.Queue.Run
/-! The messages that wait for a claim and those that claims hold, at one time. A claim moves messages from
the ones to the others, and deleting a message that is held takes it away; neither touches the rest. -/
namespace CloudClient.Queue

theorem ClaimRequest.limitPositive {request : ClaimRequest} (valid : request.validate = .ok ()) :
    0 < request.limit := by
  unfold validate at valid
  split at valid <;> try contradiction
  unfold checkLimit at valid
  split at valid
  · rename_i inside
    exact inside.1
  · contradiction

theorem partedBy {α κ : Type} [DecidableEq κ] {key : α → κ} {chosen rows : List α}
    (part : chosen.Sublist rows) (unique : (rows.map key).Nodup) :
    rows.Perm (chosen ++ rows.filter fun row => !decide (key row ∈ chosen.map key)) := by
  have divided := List.filter_append_perm (fun row => decide (key row ∈ chosen.map key)) rows
  rw [filterChosen part unique] at divided
  exact divided.symm

theorem filterAll {α : Type} {p : α → Bool} {rows chosen others : List α} (parted : rows.Perm (chosen ++ others))
    (all : ∀ row ∈ chosen, p row = true) : (rows.filter p).Perm (chosen ++ others.filter p) := by
  have filtered := parted.filter p
  rwa [List.filter_append, List.filter_eq_self.mpr all] at filtered

theorem filterNone {α : Type} {p : α → Bool} {rows chosen others : List α} (parted : rows.Perm (chosen ++ others))
    (none : ∀ row ∈ chosen, ¬ p row = true) : (rows.filter p).Perm (others.filter p) := by
  have filtered := parted.filter p
  rwa [List.filter_append, List.filter_eq_nil_iff.mpr none, List.nil_append] at filtered

namespace Store

variable {s t : Store} {now : Nat}

structure Live (now : Nat) (s : Store) : Prop extends WellFormed s where
  lives : ∀ m ∈ s.messages, now < m.expires
  valid : ∀ h ∈ s.holds, now < h.until

theorem WellFormed.purgedLive (w : WellFormed s) : Live now (s.purge now) where
  toWellFormed := w.purged now
  lives m member := by
    obtain ⟨n, _, lives, rfl⟩ := w.purgeMember.mp member
    exact lives
  valid h member := (w.purgeHold.mp member).2

theorem Live.settled (l : Live now s) {m : Stored} (member : m ∈ s.messages) : s.settled now m = m := by
  have same : s.holder? m now = m.claim := by
    refine Option.ext fun c => (l.holder member).trans (and_iff_left_of_imp fun under => ?_)
    obtain ⟨h, hh, named, _⟩ := l.backed m member c under
    exact ⟨h, hh, named, l.valid h hh⟩
  rw [Store.settled, same]

theorem Live.purge (l : Live now s) : s.purge now = s := by
  refine (l.purged now).same l.toWellFormed l.purgeNext ?_ ?_
  · rw [l.purgeMessages, live, List.filter_eq_self.mpr (by simpa using l.lives)]
    exact (List.map_congr_left fun m member => l.settled member).trans (List.map_id _)
  · rw [l.purgeHolds, List.filter_eq_self.mpr (by simpa using l.valid)]

theorem Live.kept (l : Live now s) (keep : Stored → Bool) : Live now (s.kept keep) where
  toWellFormed := l.toWellFormed.kept keep
  lives m member := l.lives m (List.mem_filter.mp member).1
  valid h member := by
    obtain ⟨g, hg, rfl⟩ := List.mem_map.mp member
    exact l.valid g hg

theorem Live.granted (l : Live now s) {c : ClaimId} {request : ClaimRequest} (valid : request.validate = .ok ())
    {taken : List Stored} (part : taken.Sublist s.messages) (free : ∀ m ∈ taken, m.claim = none)
    (fresh : c ∉ s.holds.map (·.id)) : Live now (s.granted now c request taken) where
  toWellFormed := l.toWellFormed.granted now request part free fresh
  lives m member := by
    obtain ⟨n, hn, rfl⟩ := List.mem_map.mp member
    exact Nat.lt_of_lt_of_le (l.lives n hn) (grantingLater c _ _ n)
  valid h member := by
    rcases List.mem_append.mp member with old | new
    · exact l.valid h old
    · cases List.mem_singleton.mp new
      have positive := request.holdPositive valid
      simp only [ClaimRequest.hold, Duration.nanos_add] at positive
      simp only [Hold.until]
      omega

def waiting (s : Store) (now : Nat) : List MessageId :=
  ((s.purge now).messages.filter (·.claim.isNone)).map (·.id)

def out (s : Store) (now : Nat) : List (MessageId × Option ClaimId) :=
  ((s.purge now).messages.filter (·.claim.isSome)).map fun m => (m.id, m.claim)

theorem grantedParted (k : Keyed s) (now : Nat) (c : ClaimId) (request : ClaimRequest) {taken : List Stored}
    (part : taken.Sublist s.messages) :
    let others := s.messages.filter fun m => !decide (m.seq ∈ taken.map (·.seq))
    s.messages.Perm (taken ++ others) ∧ (s.granted now c request taken).messages.Perm
      (taken.map (Stored.takenBy c (now + request.hold.nanos)) ++ others) := by
  intro others
  have parted : s.messages.Perm (taken ++ others) := partedBy part k.seqs
  have given : taken.map (granting c (now + request.hold.nanos) (taken.map (·.seq))) =
      taken.map (Stored.takenBy c (now + request.hold.nanos)) :=
    List.map_congr_left fun m member => if_pos (List.mem_map_of_mem member)
  have left : others.map (granting c (now + request.hold.nanos) (taken.map (·.seq))) = others := by
    refine (List.map_congr_left fun m member => ?_).trans (List.map_id _)
    exact if_neg (by simpa using (List.mem_filter.mp member).2)
  have moved := parted.map (granting c (now + request.hold.nanos) (taken.map (·.seq)))
  rw [List.map_append, given, left] at moved
  exact ⟨parted, moved⟩

theorem Live.granting (l : Live now s) {c : ClaimId} {request : ClaimRequest} (valid : request.validate = .ok ())
    {taken : List Stored} (part : taken.Sublist s.messages) (free : ∀ m ∈ taken, m.claim = none)
    (fresh : c ∉ s.holds.map (·.id)) :
    (s.waiting now).Perm (taken.map (·.id) ++ (s.granted now c request taken).waiting now) ∧
      ((s.granted now c request taken).out now).Perm ((taken.map fun m => (m.id, some c)) ++ s.out now) := by
  obtain ⟨before, after⟩ := grantedParted l.keyed now c request part
  have given : ∀ m ∈ taken.map (Stored.takenBy c (now + request.hold.nanos)), m.claim = some c := by
    intro m member
    obtain ⟨n, _, rfl⟩ := List.mem_map.mp member
    rfl
  rw [waiting, waiting, out, out, (l.granted valid part free fresh).purge, l.purge]
  constructor
  · have waited := filterAll before (p := (·.claim.isNone)) fun m member => by simp [free m member]
    have waits := filterNone after (p := (·.claim.isNone)) fun m member => by simp [given m member]
    have moved := (waited.trans (waits.symm.append_left taken)).map (·.id)
    rwa [List.map_append] at moved
  · have held := filterNone before (p := (·.claim.isSome)) fun m member => by simp [free m member]
    have holds := filterAll after (p := (·.claim.isSome)) fun m member => by simp [given m member]
    have moved := (holds.trans (held.symm.append_left _)).map fun m => (m.id, m.claim)
    rwa [List.map_append, List.map_map] at moved

theorem Live.erasing (l : Live now s) {m : Stored} (member : m ∈ s.messages) {c : ClaimId}
    (under : m.claim = some c) :
    (s.waiting now).Perm ((s.kept (·.id != m.id)).waiting now) ∧
      (s.out now).Perm ((m.id, some c) :: (s.kept (·.id != m.id)).out now) := by
  have parted : s.messages.Perm ([m] ++ (s.kept (·.id != m.id)).messages) := by
    have others : s.messages.filter (fun n => !decide (n.id ∈ [m].map (·.id))) =
        s.messages.filter (·.id != m.id) :=
      List.filter_congr fun n _ => by simp [bne, beq_eq_decide]
    have parted := partedBy (List.singleton_sublist.mpr member) l.ids
    rwa [others] at parted
  rw [waiting, waiting, out, out, (l.kept _).purge, l.purge]
  constructor
  · exact (filterNone parted (p := (·.claim.isNone)) (by simp [under])).map (·.id)
  · have held := (filterAll parted (p := (·.claim.isSome)) (by simp [under])).map fun m => (m.id, m.claim)
    rwa [List.map_append, List.map_singleton, under] at held

theorem outUnder {id : MessageId} {held : Option ClaimId} (member : (id, held) ∈ s.out now) :
    ∃ c, held = some c ∧ ∃ m ∈ (s.purge now).messages, m.id = id ∧ m.claim = some c := by
  obtain ⟨m, hm, same⟩ := List.mem_map.mp member
  cases same
  obtain ⟨inside, under⟩ := List.mem_filter.mp hm
  obtain ⟨c, hc⟩ := Option.isSome_iff_exists.mp under
  exact ⟨c, hc, m, inside, rfl, hc⟩

theorem waitingAfterPurge (w : WellFormed s) : (s.purge now).waiting now = s.waiting now := by
  rw [waiting, w.purgedLive.purge, waiting]

theorem outAfterPurge (w : WellFormed s) : (s.purge now).out now = s.out now := by
  rw [out, w.purgedLive.purge, out]

end Store

end CloudClient.Queue
