import CloudClient.Proofs.Queue.Operations
/-! A purge leaves the store as readers see it at that time, and nothing else: what is read at that time
is the same before and after, and purges in the order of time come to the last of them. -/
namespace CloudClient.Queue.Store

variable {s : Store} {now : Nat}

theorem holderOfLive (w : WellFormed s) {h : Hold} (hh : h ∈ s.holds) (lives : now < h.until)
    {m : Stored} (hm : m ∈ s.messages) : s.holder? m now = some h.id ↔ m.claim = some h.id :=
  (w.holder hm).trans ⟨And.left, fun under => ⟨under, h, hh, rfl, lives⟩⟩

theorem liveUnder (w : WellFormed s) {h : Hold} (hh : h ∈ s.holds) (lives : now < h.until) :
    (s.live now).filter (fun m => s.holder? m now = some h.id) = s.messages.filter (·.claim = some h.id) := by
  rw [live, List.filter_filter]
  refine List.filter_congr fun m hm => ?_
  simp only [holderOfLive w hh lives hm]
  by_cases under : m.claim = some h.id
  · simp [under, Nat.lt_of_lt_of_le lives (w.outlives hm hh under)]
  · simp [under]

theorem heldByLive (w : WellFormed s) {h : Hold} (hh : h ∈ s.holds) (lives : now < h.until) :
    heldBy ((s.live now).map (s.settled now)) h.id = heldBy s.messages h.id := by
  rw [heldBy, List.filter_map, List.map_map]
  exact congrArg (List.map Stored.id) (liveUnder w hh lives)

theorem WellFormed.purgeMessages (w : WellFormed s) :
    (s.purge now).messages = (s.live now).map (s.settled now) := by
  rw [w.purge]
  rfl

theorem WellFormed.purgeHolds (w : WellFormed s) :
    (s.purge now).holds = s.holds.filter (now < ·.until) := by
  rw [w.purge]
  refine (List.map_congr_left fun h member => ?_).trans (List.map_id _)
  obtain ⟨hh, lives⟩ := List.mem_filter.mp member
  simp only [listing, heldByLive w hh (by simpa using lives), ← w.listed hh, id]

theorem WellFormed.purgeNext (w : WellFormed s) : (s.purge now).nextSeq = s.nextSeq := by
  rw [w.purge]
  rfl

theorem WellFormed.purgeMember (w : WellFormed s) {m : Stored} :
    m ∈ (s.purge now).messages ↔ ∃ n ∈ s.messages, now < n.expires ∧ s.settled now n = m := by
  simp [w.purgeMessages, live, and_assoc]

theorem WellFormed.purgeHold (w : WellFormed s) {h : Hold} :
    h ∈ (s.purge now).holds ↔ h ∈ s.holds ∧ now < h.until := by
  simp [w.purgeHolds]

variable {earlier later : Nat}

theorem settledIff (w : WellFormed s) {m : Stored} (hm : m ∈ s.messages) {c : ClaimId} :
    (s.settled now m).claim = some c ↔ m.claim = some c ∧ ∃ h ∈ s.holds, h.id = c ∧ now < h.until :=
  w.holder hm

theorem holderAfterPurge (w : WellFormed s) (order : earlier ≤ later) {m : Stored}
    (hm : m ∈ s.messages) (lives : earlier < m.expires) :
    (s.purge earlier).holder? (s.settled earlier m) later = s.holder? m later := by
  have member : s.settled earlier m ∈ (s.purge earlier).messages :=
    w.purgeMember.mpr ⟨m, hm, lives, rfl⟩
  refine Option.ext fun c => ?_
  rw [(w.purged earlier).holder member, settledIff w hm, w.holder hm]
  constructor
  · rintro ⟨⟨under, _⟩, h, hh, same, lasts⟩
    exact ⟨under, h, (w.purgeHold.mp hh).1, same, lasts⟩
  · rintro ⟨under, h, hh, same, lasts⟩
    have before : earlier < h.until := Nat.lt_of_le_of_lt order lasts
    exact ⟨⟨under, h, hh, same, before⟩, h, w.purgeHold.mpr ⟨hh, before⟩, same, lasts⟩

theorem settledTwice (w : WellFormed s) (order : earlier ≤ later) {m : Stored}
    (hm : m ∈ s.messages) (lives : earlier < m.expires) :
    (s.purge earlier).settled later (s.settled earlier m) = s.settled later m := by
  rw [settled, holderAfterPurge w order hm lives]
  rfl

theorem WellFormed.purgeTwice (w : WellFormed s) (order : earlier ≤ later) :
    (s.purge earlier).purge later = s.purge later := by
  have part : ∀ time bound : Nat, bound ≤ time → ∀ due, (decide (time < due) && decide (bound < due)) =
      decide (time < due) := by
    intro time bound le due
    by_cases lasts : time < due
    · simp [lasts, Nat.lt_of_le_of_lt le lasts]
    · simp [lasts]
  refine ((w.purged earlier).purged later).same (w.purged later) ?_ ?_ ?_
  · rw [(w.purged earlier).purgeNext, w.purgeNext, w.purgeNext]
  · rw [(w.purged earlier).purgeMessages, w.purgeMessages]
    simp only [live, w.purgeMessages, List.filter_map, List.map_map, List.filter_filter]
    have same : ∀ m ∈ s.messages, (((fun m : Stored => decide (later < m.expires)) ∘ s.settled earlier) m &&
        decide (earlier < m.expires)) = decide (later < m.expires) :=
      fun m _ => part later earlier order m.expires
    rw [List.filter_congr same]
    refine List.map_congr_left fun m member => ?_
    obtain ⟨hm, lasts⟩ := List.mem_filter.mp member
    exact settledTwice w order hm (Nat.lt_of_le_of_lt order (by simpa using lasts))
  · rw [(w.purged earlier).purgeHolds, w.purgeHolds, w.purgeHolds, List.filter_filter]
    exact List.filter_congr fun h _ => part later earlier order h.until

theorem viewAfterPurge (w : WellFormed s) {m : Stored} (hm : m ∈ s.messages) (lives : now < m.expires) :
    (s.purge now).view (s.settled now m) now = s.view m now := by
  unfold view
  rw [holderAfterPurge w (Nat.le_refl now) hm lives]
  rfl

theorem liveAfterPurge (w : WellFormed s) : (s.purge now).live now = (s.live now).map (s.settled now) := by
  rw [live, w.purgeMessages, List.filter_eq_self]
  intro m member
  obtain ⟨n, hn, rfl⟩ := List.mem_map.mp member
  exact (List.mem_filter.mp hn).2

theorem sizeAfterPurge (w : WellFormed s) : (s.purge now).size now = s.size now := by
  rw [size, liveAfterPurge w, List.length_map, size]

theorem lookupAfterPurge (w : WellFormed s) (id : MessageId) :
    (s.purge now).lookup id now = (s.lookup id now).map (s.settled now) := by
  refine Option.ext fun m => ?_
  rw [(w.purged now).keyed.lookupIff, w.purgeMember, Option.map_eq_some_iff]
  constructor
  · rintro ⟨⟨n, hn, lives, rfl⟩, same, _⟩
    exact ⟨n, w.keyed.lookupIff.mpr ⟨hn, same, lives⟩, rfl⟩
  · rintro ⟨n, found, rfl⟩
    obtain ⟨hn, same, lives⟩ := w.keyed.lookupIff.mp found
    exact ⟨⟨n, hn, lives, rfl⟩, same, lives⟩

theorem getAfterPurge (w : WellFormed s) (id : MessageId) : (s.purge now).get now id = s.get now id := by
  rw [get, lookupAfterPurge w, Option.map_map, get]
  cases found : s.lookup id now with
  | none => rfl
  | some m =>
    obtain ⟨hm, _, lives⟩ := w.keyed.lookupIff.mp found
    exact congrArg some (viewAfterPurge w hm lives)

theorem getAbsent (k : Keyed s) {id : MessageId} (absent : ∀ m ∈ s.messages, m.id ≠ id) :
    s.get now id = none := by
  rw [get, Option.map_eq_none_iff, Option.eq_none_iff_forall_ne_some]
  intro m found
  obtain ⟨member, named, _⟩ := k.lookupIff.mp found
  exact absent m member named

theorem getIff (k : Keyed s) {id : MessageId} {seen : Message} :
    s.get now id = some seen ↔
      ∃ m ∈ s.messages, m.id = id ∧ now < m.expires ∧ s.view m now = seen := by
  simp only [get, Option.map_eq_some_iff, k.lookupIff, and_assoc]

theorem viewAllEq (s : Store) (ids : List MessageId) (now : Nat) :
    s.viewAll ids now = ids.filterMap (s.get now) := by
  rw [viewAll, List.map_filterMap]
  rfl

theorem viewAllAfterPurge (w : WellFormed s) (ids : List MessageId) :
    (s.purge now).viewAll ids now = s.viewAll ids now := by
  rw [viewAllEq, viewAllEq]
  exact List.filterMap_congr fun id _ => getAfterPurge w id

theorem liveHoldAfterPurge (w : WellFormed s) (c : ClaimId) :
    (s.purge now).liveHold? c now = s.liveHold? c now := by
  refine Option.ext fun h => ?_
  rw [(w.purged now).liveHoldIff, w.liveHoldIff, w.purgeHold]
  constructor
  · rintro ⟨⟨hh, _⟩, same, lives⟩
    exact ⟨hh, same, lives⟩
  · rintro ⟨hh, same, lives⟩
    exact ⟨⟨hh, lives⟩, same, lives⟩

theorem getClaimAfterPurge (w : WellFormed s) (c : ClaimId) :
    (s.purge now).getClaim now c = s.getClaim now c := by
  simp only [getClaim, liveHoldAfterPurge w, viewAllAfterPurge w]

theorem getLater (w : WellFormed s) (order : earlier ≤ later) (id : MessageId) :
    (s.purge earlier).get later id = s.get later id := by
  rw [← getAfterPurge (w.purged earlier), w.purgeTwice order, getAfterPurge w]

theorem getClaimLater (w : WellFormed s) (order : earlier ≤ later) (c : ClaimId) :
    (s.purge earlier).getClaim later c = s.getClaim later c := by
  rw [← getClaimAfterPurge (w.purged earlier), w.purgeTwice order, getClaimAfterPurge w]

theorem candidatesAfterPurge (w : WellFormed s) (options : StreamOptions) (start : Nat) :
    (s.purge now).candidates now options start =
      (s.candidates now options start).map (s.settled now) := by
  rw [candidates, liveAfterPurge w, candidates, List.filter_map]
  congr 1
  refine List.filter_congr fun m member => ?_
  obtain ⟨hm, lives⟩ := List.mem_filter.mp member
  simp only [Function.comp_apply,
    holderAfterPurge w (Nat.le_refl now) hm (by simpa using lives)]
  rfl

theorem streamPageAfterPurge (w : WellFormed s) (reader : ClientId) (options : StreamOptions) :
    (s.purge now).streamPage reader now options = s.streamPage reader now options := by
  unfold streamPage
  cases options.validate with
  | error e => rfl
  | ok _ =>
    cases startOf options.marker with
    | error e => rfl
    | ok start =>
      dsimp only
      rw [candidatesAfterPurge w, List.length_map, ← List.map_take, List.getLast?_map, List.filter_map]
      have last : ∀ o : Option Stored, (o.map (s.settled now)).map (fun m => Marker.mk (toString m.seq)) =
          o.map fun m => Marker.mk (toString m.seq) := fun o => by
        rw [Option.map_map]
        rfl
      have shown : ∀ rows : List Stored, (∀ m ∈ rows, m ∈ s.messages ∧ now < m.expires) →
          (rows.map (s.settled now)).map (fun m => (s.purge now).view m now) =
            rows.map fun m => s.view m now := by
        intro rows live
        rw [List.map_map]
        exact List.map_congr_left fun m hm => viewAfterPurge w (live m hm).1 (live m hm).2
      rw [last, shown]
      · rfl
      · intro m member
        have candidate := List.mem_of_mem_take (List.mem_filter.mp member).1
        have alive := List.mem_filter.mp (List.mem_filter.mp candidate).1
        exact ⟨alive.1, by simpa using alive.2⟩

end CloudClient.Queue.Store
