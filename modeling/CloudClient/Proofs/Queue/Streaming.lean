import CloudClient.Proofs.Page.Advance
import CloudClient.Proofs.Queue.Numbering
import CloudClient.Proofs.Text.Digits
/-! Reading a queue page by page while others change it. A walk stands at a number: the next page has
the visible messages from that number on, and the marker of a page moves the walk behind all messages
that the page has looked at, shown or not. -/
namespace CloudClient.Queue

theorem StreamOptions.limitPositive {options : StreamOptions} (valid : options.validate = .ok ()) :
    0 < options.effectiveLimit := by
  unfold validate at valid
  unfold effectiveLimit
  cases given : options.limit with
  | none => exact Nat.succ_pos _
  | some limit =>
    simp only [given, checkLimit] at valid
    split at valid
    · rename_i bounds
      exact bounds.1
    · contradiction

namespace Store

structure Turn where
  calls : List Call
  now : Nat

structure Visit where
  past : List Call
  now : Nat
  given : Outcome (Page Message)
  cursor : Page.Cursor StreamOptions

def Visit.store (v : Visit) : Store := empty.run v.past

def Visit.items (v : Visit) : List Message :=
  match v.given with
  | .ok page => page.items
  | .error _ => []

def visits (reader : ClientId) (c : Page.Cursor StreamOptions) (past : List Call) : List Turn → List Visit
  | [] => []
  | turn :: turns =>
    match c.next (fetcher reader turn.now) (empty.run (past ++ turn.calls)) with
    | (none, _, _) => []
    | (some given, c, _) =>
      ⟨past ++ turn.calls, turn.now, given, c⟩ :: visits reader c (past ++ turn.calls) turns

structure Visible (s : Store) (reader : ClientId) (now : Nat) (options : StreamOptions) (m : Stored) : Prop where
  stored : m ∈ s.messages
  live : now < m.expires
  free : options.includeClaimed ∨ s.holder? m now = none
  foreign : options.echo ∨ m.author ≠ reader

def Visit.Shows (reader : ClientId) (options : StreamOptions) (v : Visit) (id : MessageId) : Prop :=
  ∃ m, m.id = id ∧ v.store.Visible reader v.now options m

variable {s : Store} {reader : ClientId} {now start stop : Nat} {options : StreamOptions}
  {marker : Option Marker} {past : List Call} {turns : List Turn}

def window (s : Store) (reader : ClientId) (now : Nat) (options : StreamOptions) (start stop : Nat) :
    List Message :=
  (((s.candidates now options start).filter (·.seq < stop)).filter fun m =>
    options.echo || m.author != reader).map fun m => s.view m now

inductive Paged (s : Store) (reader : ClientId) (now : Nat) (options : StreamOptions) (start : Nat) :
    Page Message → Prop
  | last : Paged s reader now options start ⟨s.window reader now options start s.nextSeq, none⟩
  | cut {n} (reached : start ≤ n) (more : n + 1 < s.nextSeq) :
      Paged s reader now options start ⟨s.window reader now options start (n + 1), some ⟨toString n⟩⟩

theorem candidateIff {m : Stored} : m ∈ s.candidates now options start ↔
    (m ∈ s.messages ∧ now < m.expires ∧ (options.includeClaimed ∨ s.holder? m now = none)) ∧ start ≤ m.seq := by
  simp only [candidates, live, List.mem_filter, Bool.and_eq_true, Bool.or_eq_true, decide_eq_true_eq,
    Option.isNone_iff_eq_none]
  tauto

theorem candidatesOrdered (k : Keyed s) (now : Nat) (options : StreamOptions) (start : Nat) :
    (s.candidates now options start).Pairwise (·.seq < ·.seq) :=
  k.ordered.sublist (List.filter_sublist.trans List.filter_sublist)

theorem cutBehind {all : List Stored} (ordered : all.Pairwise (·.seq < ·.seq)) {i : Nat} (inside : i < all.length) :
    (∀ m ∈ all.take (i + 1), m.seq < all[i].seq + 1) ∧ ∀ m ∈ all.drop (i + 1), all[i].seq + 1 ≤ m.seq := by
  have grows := List.pairwise_iff_getElem.mp ordered
  constructor
  · intro m member
    obtain ⟨j, before, rfl⟩ := List.mem_take_iff_getElem.mp member
    rcases Nat.lt_or_eq_of_le (Nat.le_of_lt_succ (Nat.lt_of_lt_of_le before (Nat.min_le_left _ _))) with less | rfl
    · exact Nat.lt_succ_of_lt (grows j i _ inside less)
    · exact Nat.lt_succ_self _
  · intro m member
    obtain ⟨j, within, rfl⟩ := List.mem_drop_iff_getElem.mp member
    exact Nat.succ_le_of_lt (grows i (i + 1 + j) inside (by omega) (by omega))

theorem takenBelow {all : List Stored} (ordered : all.Pairwise (·.seq < ·.seq)) {i : Nat} (inside : i < all.length) :
    all.filter (·.seq < all[i].seq + 1) = all.take (i + 1) := by
  obtain ⟨early, late⟩ := cutBehind ordered inside
  calc all.filter (·.seq < all[i].seq + 1)
    _ = (all.take (i + 1) ++ all.drop (i + 1)).filter (·.seq < all[i].seq + 1) := by rw [List.take_append_drop]
    _ = all.take (i + 1) := by
      rw [List.filter_append, List.filter_eq_self.mpr (by simpa using early),
        List.filter_eq_nil_iff.mpr (by simpa using late), List.append_nil]

theorem droppedFrom {all : List Stored} (ordered : all.Pairwise (·.seq < ·.seq)) {i : Nat} (inside : i < all.length) :
    all.filter (all[i].seq + 1 ≤ ·.seq) = all.drop (i + 1) := by
  obtain ⟨early, late⟩ := cutBehind ordered inside
  calc all.filter (all[i].seq + 1 ≤ ·.seq)
    _ = (all.take (i + 1) ++ all.drop (i + 1)).filter (all[i].seq + 1 ≤ ·.seq) := by rw [List.take_append_drop]
    _ = all.drop (i + 1) := by
      rw [List.filter_append, List.filter_eq_nil_iff.mpr (by simpa using early),
        List.filter_eq_self.mpr (by simpa using late), List.nil_append]

def shownTo (s : Store) (reader : ClientId) (now : Nat) (options : StreamOptions) (scanned : List Stored) :
    List Message :=
  (scanned.filter fun m => options.echo || m.author != reader).map fun m => s.view m now

theorem pageLast (reader : ClientId) (valid : options.validate = .ok ()) (parsed : startOf options.marker = .ok start)
    (few : (s.candidates now options start).length ≤ options.effectiveLimit) :
    s.streamPage reader now options = .ok ⟨s.shownTo reader now options (s.candidates now options start), none⟩ := by
  simp only [streamPage, valid, parsed, if_neg (Nat.not_lt.mpr few), List.take_of_length_le few]
  rfl

theorem pageMore (reader : ClientId) (valid : options.validate = .ok ()) (parsed : startOf options.marker = .ok start)
    {i : Nat} (limit : options.effectiveLimit = i + 1) (more : i + 1 < (s.candidates now options start).length) :
    s.streamPage reader now options =
      .ok ⟨s.shownTo reader now options ((s.candidates now options start).take (i + 1)),
        some ⟨toString (s.candidates now options start)[i].seq⟩⟩ := by
  have last : ((s.candidates now options start).take (i + 1)).getLast? = some (s.candidates now options start)[i] := by
    rw [List.take_add_one, List.getElem?_eq_getElem (Nat.lt_of_succ_lt more), Option.toList_some, List.getLast?_concat]
  simp only [streamPage, valid, parsed, limit, if_pos more, last]
  rfl

theorem windowIff {seen : Message} : seen ∈ s.window reader now options start stop ↔
    ∃ m, s.Visible reader now options m ∧ start ≤ m.seq ∧ m.seq < stop ∧ seen = s.view m now := by
  simp only [window, List.mem_map, List.mem_filter, candidateIff, Bool.or_eq_true, bne_iff_ne,
    decide_eq_true_eq]
  constructor
  · rintro ⟨m, ⟨⟨⟨⟨stored, live, free⟩, from'⟩, below⟩, foreign⟩, rfl⟩
    exact ⟨m, ⟨stored, live, free, foreign⟩, from', below, rfl⟩
  · rintro ⟨m, ⟨stored, live, free, foreign⟩, from', below, rfl⟩
    exact ⟨m, ⟨⟨⟨⟨stored, live, free⟩, from'⟩, below⟩, foreign⟩, rfl⟩

theorem paged (w : WellFormed s) (reader : ClientId) (now : Nat) (valid : options.validate = .ok ())
    (parsed : startOf marker = .ok start) :
    ∃ page, s.streamPage reader now { options with marker } = .ok page ∧
      Paged s reader now options start page := by
  obtain ⟨i, limit⟩ := Nat.exists_eq_add_one.mpr (options.limitPositive valid)
  have given : ({ options with marker } : StreamOptions).validate = .ok () := valid
  let all := s.candidates now options start
  have ordered : all.Pairwise (·.seq < ·.seq) := candidatesOrdered w.keyed now options start
  have below (m : Stored) (member : m ∈ all) : m.seq < s.nextSeq := w.below m (candidateIff.mp member).1.1
  by_cases more : i + 1 < all.length
  · have inside : i < all.length := Nat.lt_of_succ_lt more
    refine ⟨_, pageMore reader given parsed limit more, ?_⟩
    have reached : start ≤ all[i].seq := (candidateIff.mp (List.getElem_mem inside)).2
    have following : all[i].seq < all[i + 1].seq :=
      List.pairwise_iff_getElem.mp ordered i (i + 1) inside more (Nat.lt_succ_self i)
    have left := below _ (List.getElem_mem more)
    have cut : Paged s reader now options start ⟨_, some ⟨toString all[i].seq⟩⟩ := .cut reached (by omega)
    rwa [window, takenBelow ordered inside] at cut
  · refine ⟨_, pageLast reader given parsed (limit ▸ Nat.not_lt.mp more), ?_⟩
    have whole : all.filter (·.seq < s.nextSeq) = all := List.filter_eq_self.mpr fun m member =>
      decide_eq_true (below m member)
    have final : Paged s reader now options start ⟨s.window reader now options start s.nextSeq, none⟩ := .last
    rwa [window, whole] at final

/-- The number that comes next after a marker; the largest of 64 bits has none. -/
inductive Starts : Option Marker → Nat → Prop
  | first : Starts none 0
  | behind {m n} (number : Text.Decimal m.text n) (small : n < UInt64.size - 1) : Starts (some m) (n + 1)

theorem Starts.parsed (starts : Starts marker start) : startOf marker = .ok start := by
  cases starts with
  | first => rfl
  | behind number => simp only [startOf, Text.nat64Iff.mpr number]

/-- The walk asks next for the numbers from this one on. A number that has more than 64 bits stands in
no marker that the queue would accept. -/
inductive Standing (order : List MessageId) (marker : Option Marker) (start : Nat) : Prop
  | readable (parsed : startOf marker = .ok start)
  | beyond {text} (refused : startOf marker = .error (.invalidArgument (.streamMarker text)))
      (many : UInt64.size < order.length)

theorem standingAfter {order : List MessageId} {n : Nat} (inside : n < order.length) :
    Standing order (some ⟨toString n⟩) (n + 1) := by
  by_cases small : n < UInt64.size
  · exact .readable (by simp only [startOf, Text.nat64OfText, if_pos small])
  · have refused : startOf (some ⟨toString n⟩) = .error (.invalidArgument (.streamMarker (toString n))) := by
      simp only [startOf, Text.nat64OfText, if_neg small]
    exact .beyond refused (by omega)

theorem markerMoves (parsed : startOf marker = .ok start) {n : Nat} (reached : start ≤ n) :
    marker ≠ some ⟨toString n⟩ := by
  rintro rfl
  simp only [startOf, Text.nat64OfText] at parsed
  split at parsed
  · rename_i read
    split at read <;> cases read
    cases parsed
    omega
  · contradiction

/-- What holds of a walk from the number `start` on. The number of a message is the place of its id in
`order`, the ids of all messages ever posted. -/
structure Streamed (reader : ClientId) (options : StreamOptions) (order : List MessageId) (start : Nat)
    (walk : List Visit) : Prop where
  inOrder : (walk.flatMap Visit.items).Pairwise fun m n => order.idxOf m.id < order.idxOf n.id
  above : ∀ m ∈ walk.flatMap Visit.items, start ≤ order.idxOf m.id
  visible : ∀ v ∈ walk, ∀ m ∈ v.items, ∃ stored, v.store.Visible reader v.now options stored ∧
    m = v.store.view stored v.now
  complete : ∀ last, walk.getLast? = some last → last.cursor.phase = .exhausted →
    ∀ id ∈ posted last.past, start ≤ order.idxOf id →
      (∀ v ∈ walk, id ∈ posted v.past → v.Shows reader options id) → ∃ m ∈ walk.flatMap Visit.items, m.id = id
  few : ∀ last, walk.getLast? = some last → walk.length ≤ max 1 ((posted last.past).length - start)
  answered : order.length ≤ UInt64.size → ∀ v ∈ walk, v.given.isOk

variable {order : List MessageId} {k : Nat}

theorem visitsDone {c : Page.Cursor StreamOptions} (done : c.isDone) (reader : ClientId) (past : List Call)
    (turns : List Turn) : visits reader c past turns = [] := by
  cases turns with
  | nil => rfl
  | cons turn turns => simp only [visits, Page.Cursor.nextDone done]

theorem visitsOnward {c : Page.Cursor StreamOptions} {v : Visit} (member : v ∈ visits reader c past turns) :
    past <+: v.past := by
  induction turns generalizing c past with
  | nil => cases member
  | cons turn turns ih =>
    by_cases done : c.isDone
    · rw [visitsDone done] at member
      cases member
    · have active : c.phase = .active := by simpa [Page.Cursor.isDone] using done
      simp only [visits, Page.Cursor.nextActive active, List.mem_cons] at member
      rcases member with rfl | later
      · exact List.prefix_append _ _
      · exact (List.prefix_append _ _).trans (ih later)

theorem streamedNone : Streamed reader options order start [] where
  inOrder := .nil
  above _ member := by cases member
  visible _ member := by cases member
  complete _ last := by cases last
  few _ last := by cases last
  answered _ _ member := by cases member

theorem streamedRefused {v : Visit} {e : Error} (refused : v.given = .error e) (failed : v.cursor.phase = .failed)
    (many : UInt64.size < order.length) : Streamed reader options order start [v] := by
  have nothing : v.items = [] := by rw [Visit.items, refused]
  have none : [v].flatMap Visit.items = [] := by rw [List.flatMap_singleton, nothing]
  refine ⟨none ▸ .nil, fun m member => ?_, fun u member m shown => ?_, fun last is ended => ?_, ?_, ?_⟩
  · rw [none] at member
    cases member
  · cases List.mem_singleton.mp member
    rw [nothing] at shown
    cases shown
  · have same : v = last := by simpa using is
    rw [← same, failed] at ended
    cases ended
  · exact fun _ _ => Nat.le_max_left _ _
  · exact fun fits => absurd fits (Nat.not_le.mpr many)

theorem beforeIff {ids : List MessageId} (known : ids <+: order) {id : MessageId} :
    id ∈ ids ↔ order.idxOf id < ids.length := by
  obtain ⟨later, rfl⟩ := known
  constructor
  · intro member
    rw [List.idxOf_append_of_mem member]
    exact List.idxOf_lt_length_of_mem member
  · intro less
    have within : (ids ++ later).idxOf id < (ids ++ later).length := by
      rw [List.length_append]
      omega
    have found := List.getElem_idxOf within
    rw [List.getElem_append_left less] at found
    exact found ▸ List.getElem_mem less

structure Leg (reader : ClientId) (options : StreamOptions) (order : List MessageId) (start stop : Nat)
    (v : Visit) (rest : List Visit) : Prop where
  well : WellFormed v.store
  numbered : Numbered (posted v.past) v.store
  distinct : order.Nodup
  known : posted v.past <+: order
  answered : v.given.isOk
  items : v.items = v.store.window reader v.now options start stop
  inside : stop ≤ v.store.nextSeq
  final : v.cursor.phase = .exhausted → stop = v.store.nextSeq
  onward : ∀ u ∈ rest, v.past <+: u.past
  further : rest ≠ [] → start < stop ∧ stop < v.store.nextSeq

section Leg

variable {v last : Visit} {rest : List Visit} (leg : Leg reader options order start stop v rest)
include leg

theorem Leg.place {m : Stored} (member : m ∈ v.store.messages) : order.idxOf m.id = m.seq :=
  (leg.numbered.place leg.distinct leg.known member).1

theorem Leg.between {m : Message} (member : m ∈ v.items) :
    start ≤ order.idxOf m.id ∧ order.idxOf m.id < stop := by
  rw [leg.items] at member
  obtain ⟨stored, visible, reached, below, rfl⟩ := windowIff.mp member
  have place : order.idxOf stored.id = stored.seq := leg.place visible.stored
  exact ⟨place.symm ▸ reached, place.symm ▸ below⟩

theorem Leg.inOrder : v.items.Pairwise fun m n => order.idxOf m.id < order.idxOf n.id := by
  have part := List.filter_sublist (p := fun m => options.echo || m.author != reader).trans
    (List.filter_sublist (l := v.store.candidates v.now options start) (p := (·.seq < stop)))
  have ordered := (candidatesOrdered leg.well.keyed v.now options start).sublist part
  have place {m : Stored} (member : m ∈ v.store.candidates v.now options start) : order.idxOf m.id = m.seq :=
    leg.place (candidateIff.mp member).1.1
  rw [leg.items]
  refine List.pairwise_map.mpr (ordered.imp_of_mem fun {m n} hm hn less => ?_)
  show order.idxOf m.id < order.idxOf n.id
  rwa [place (part.subset hm), place (part.subset hn)]

theorem Leg.shown {id : MessageId} (reached : start ≤ order.idxOf id) (before : order.idxOf id < stop)
    (shows : id ∈ posted v.past → v.Shows reader options id) : ∃ m ∈ v.items, m.id = id := by
  have was : id ∈ posted v.past :=
    (beforeIff leg.known).mpr (Nat.lt_of_lt_of_le before (leg.numbered.next ▸ leg.inside))
  obtain ⟨stored, rfl, visible⟩ := shows was
  rw [leg.place visible.stored] at reached before
  refine ⟨v.store.view stored v.now, ?_, rfl⟩
  rw [leg.items]
  exact windowIff.mpr ⟨stored, visible, reached, before, rfl⟩

theorem Leg.complete (later : Streamed reader options order stop rest) (is : (v :: rest).getLast? = some last)
    (ended : last.cursor.phase = .exhausted) {id : MessageId} (known : id ∈ posted last.past)
    (reached : start ≤ order.idxOf id)
    (shows : ∀ u ∈ v :: rest, id ∈ posted u.past → u.Shows reader options id) :
    ∃ m ∈ (v :: rest).flatMap Visit.items, m.id = id := by
  -- below `stop` this visit must have shown the message; from there on a later one has
  by_cases before : order.idxOf id < stop
  · obtain ⟨m, member, named⟩ := leg.shown reached before (shows v List.mem_cons_self)
    exact ⟨m, List.mem_append_left _ member, named⟩
  · cases rest with
    | nil =>
      have same : v = last := by simpa using is
      subst same
      rw [leg.final ended, leg.numbered.next] at before
      exact absurd ((beforeIff leg.known).mp known) before
    | cons u rest =>
      rw [List.getLast?_cons_cons] at is
      obtain ⟨m, member, named⟩ := later.complete last is ended id known (Nat.not_lt.mp before)
        fun u hu => shows u (List.mem_cons_of_mem _ hu)
      exact ⟨m, List.mem_append_right _ member, named⟩

theorem Leg.few (later : Streamed reader options order stop rest) (is : (v :: rest).getLast? = some last) :
    (v :: rest).length ≤ max 1 ((posted last.past).length - start) := by
  cases rest with
  | nil => exact Nat.le_max_left _ _
  | cons u rest =>
    rw [List.getLast?_cons_cons] at is
    obtain ⟨moves, left⟩ := leg.further (List.cons_ne_nil _ _)
    obtain ⟨calls, grown⟩ := leg.onward last (List.mem_of_getLast? is)
    have more : (posted v.past).length ≤ (posted last.past).length :=
      grown ▸ (postedAppend v.past calls).length_le
    have few := later.few last is
    rw [leg.numbered.next] at left
    simp only [List.length_cons] at few ⊢
    omega

theorem Leg.streamed (later : Streamed reader options order stop rest) :
    Streamed reader options order start (v :: rest) where
  inOrder := by
    rw [List.flatMap_cons]
    exact List.pairwise_append.mpr ⟨leg.inOrder, later.inOrder, fun m hm n hn =>
      Nat.lt_of_lt_of_le (leg.between hm).2 (later.above n hn)⟩
  above m member := by
    rcases List.mem_append.mp member with now | after
    · exact (leg.between now).1
    · have more : rest ≠ [] := by
        rintro rfl
        cases after
      exact Nat.le_trans (Nat.le_of_lt (leg.further more).1) (later.above m after)
  visible u hu m member := by
    rcases List.mem_cons.mp hu with rfl | hu
    · rw [leg.items] at member
      obtain ⟨stored, visible, _, _, rfl⟩ := windowIff.mp member
      exact ⟨stored, visible, rfl⟩
    · exact later.visible u hu m member
  complete _ is ended _ known reached shows := leg.complete later is ended known reached shows
  few _ is := leg.few later is
  answered fits u hu := by
    rcases List.mem_cons.mp hu with rfl | hu
    · exact leg.answered
    · exact later.answered fits u hu

end Leg

theorem visitsTurn (reader : ClientId) (sent : StreamOptions) (k : Nat) (past : List Call) (turn : Turn)
    (turns : List Turn) :
    let after := (Page.Cursor.mk sent .active k).advance
      ((empty.run (past ++ turn.calls)).streamPage reader turn.now sent)
    visits reader ⟨sent, .active, k⟩ past (turn :: turns) =
      ⟨past ++ turn.calls, turn.now, after.1, after.2⟩ :: visits reader after.2 (past ++ turn.calls) turns := by
  simp only [visits, Page.Cursor.nextActive, fetcher]

theorem streamedEach (valid : options.validate = .ok ()) (distinct : order.Nodup)
    (fresh : FreshIds (past ++ turns.flatMap Turn.calls))
    (known : posted (past ++ turns.flatMap Turn.calls) <+: order) (standing : Standing order marker start) :
    Streamed reader options order start (visits reader ⟨{ options with marker }, .active, k⟩ past turns) := by
  induction turns generalizing past marker start k with
  | nil => exact streamedNone
  | cons turn turns ih =>
    rw [List.flatMap_cons, ← List.append_assoc] at fresh known
    have now : FreshIds (past ++ turn.calls) := fresh.forEmpty.earlier
    have well := reachedWellFormed now
    have numbered := reachedNumbered now
    have before := (postedAppend _ _).trans known
    rw [visitsTurn]
    cases standing with
    | @beyond text refused many =>
      let e : Error := .invalidArgument (.streamMarker text)
      have fails : (empty.run (past ++ turn.calls)).streamPage reader turn.now { options with marker } =
          .error e := by
        have given : ({ options with marker } : StreamOptions).validate = .ok () := valid
        simp only [streamPage, given, refused, e]
      have stops : (Page.Cursor.mk { options with marker } .active k).advance (.error e : Outcome (Page Message)) =
          (.error e, ⟨{ options with marker }, .failed, k + 1⟩) := rfl
      rw [fails, stops, visitsDone rfl]
      exact streamedRefused rfl rfl many
    | readable parsed =>
      obtain ⟨page, given, paged⟩ := paged well reader turn.now valid parsed
      rw [given]
      cases paged with
      | last =>
        rw [Page.Cursor.advanceLast (.inl rfl), visitsDone rfl]
        have later : Streamed reader options order (empty.run (past ++ turn.calls)).nextSeq [] := streamedNone
        refine Leg.streamed ?_ later
        exact
          { well, numbered, distinct, known := before, answered := rfl, items := rfl
            inside := Nat.le_refl _
            final := fun _ => rfl
            onward := fun _ none => by cases none
            further := fun more => absurd rfl more }
      | cut reached more =>
        rw [Page.Cursor.advanceMore rfl (markerMoves parsed reached)]
        have inside : _ < order.length :=
          Nat.lt_of_lt_of_le (Nat.lt_of_succ_lt more) (numbered.next ▸ before.length_le)
        have later := ih (k := k + 1) fresh known (standingAfter inside)
        refine Leg.streamed ?_ later
        exact
          { well, numbered, distinct, known := before, answered := rfl, items := rfl
            inside := Nat.le_of_lt more
            final := fun ended => by cases ended
            onward := fun _ member => visitsOnward member
            further := fun _ => ⟨Nat.lt_succ_of_le reached, more⟩ }

theorem streamedWhileChanging (options : StreamOptions) (reader : ClientId) (before : List Call)
    (turns : List Turn) (fresh : FreshIds (before ++ turns.flatMap Turn.calls))
    (valid : options.validate = .ok ()) (starts : Starts options.marker start) :
    Streamed reader options (posted (before ++ turns.flatMap Turn.calls)) start
      (visits reader (.new options) before turns) :=
  streamedEach valid (postedNodup fresh) fresh (List.prefix_refl _) (.readable starts.parsed)

theorem streamedPastAClaim :
    let post (ids : List String) : Call :=
      ⟨⟨"a"⟩, 0, .named ids "", .post (ids.map fun _ => ⟨.ofSeconds 60, .null⟩)⟩
    let claim : Call := ⟨⟨"b"⟩, 0, .named [] "c", .claim ⟨.ofSeconds 60, .ofSeconds 60, 2⟩⟩
    let before := [post ["k", "l", "m"]]
    let turns : List Turn := [⟨[], 1⟩, ⟨[claim, post ["n"]], 2⟩, ⟨[], 3⟩]
    let options : StreamOptions := ⟨some 1, none, false, false⟩
    let walk := visits ⟨"r"⟩ (.new options) before turns
    FreshIds (before ++ turns.flatMap Turn.calls) ∧ options.validate = .ok () ∧ Starts options.marker 0 ∧
      walk.map (fun v => v.items.map (·.id.text)) = [["k"], ["m"], ["n"]] ∧
      Streamed ⟨"r"⟩ options (posted (before ++ turns.flatMap Turn.calls)) 0 walk := by
  intro post claim before turns options walk
  have fresh : FreshIds (before ++ turns.flatMap Turn.calls) := by decide
  exact ⟨fresh, rfl, .first, by decide +kernel, streamedWhileChanging options ⟨"r"⟩ before turns fresh rfl .first⟩

end Store
end CloudClient.Queue
