import CloudClient.Proofs.Missing
/-! Several messages in one parameter. Their ids are joined with commas and an id may itself have one, so that the
parameter tells a provider the pieces between all the commas and no more. It tells the ids themselves exactly where
none of them has a comma. -/
namespace CloudClient.Queue

open Http

def splitIds (value : String) : List MessageId := (value.toList.splitOn ',').map fun piece => ⟨String.ofList piece⟩

def MessageId.pieces (id : MessageId) : List MessageId := splitIds id.text

def MessageId.Whole (id : MessageId) : Prop := ',' ∉ id.text.toList

variable {ids others : List MessageId}

theorem joinedChars (ids : List MessageId) :
    (Remote.joinIds ids).toList = [','].intercalate (ids.map fun id => id.text.toList) := by
  rw [Remote.joinIds, String.toList_intercalate, List.map_map]
  rfl

theorem joinedMore (id next : MessageId) (rest : List MessageId) : (Remote.joinIds (id :: next :: rest)).toList =
    id.text.toList ++ ',' :: (Remote.joinIds (next :: rest)).toList := by
  rw [joinedChars, joinedChars, List.map_cons, List.map_cons, List.intercalate_cons_cons, List.append_assoc,
    List.singleton_append]

theorem splitJoined (some : ids ≠ []) : splitIds (Remote.joinIds ids) = ids.flatMap MessageId.pieces := by
  induction ids with
  | nil => contradiction
  | cons id rest ih =>
    cases rest with
    | nil => simp [splitIds, joinedChars, MessageId.pieces]
    | cons next rest =>
      have tail := ih (List.cons_ne_nil next rest)
      rw [List.flatMap_cons, ← tail, MessageId.pieces, splitIds, joinedMore, List.splitOn_append_cons_self,
        List.map_append]
      rfl

theorem joinSplit (value : String) : Remote.joinIds (splitIds value) = value := by
  apply String.toList_inj.mp
  have pieces : (splitIds value).map (fun id => id.text.toList) = value.toList.splitOn ',' := by
    simp [splitIds, Function.comp_def]
  rw [joinedChars, pieces, List.intercalate_splitOn]

theorem joinedIff (some : ids ≠ []) (someOther : others ≠ []) :
    Remote.joinIds others = Remote.joinIds ids ↔ others.flatMap MessageId.pieces = ids.flatMap MessageId.pieces := by
  constructor
  · intro same
    rw [← splitJoined some, ← splitJoined someOther, same]
  · intro same
    rw [← joinSplit (Remote.joinIds others), splitJoined someOther, same, ← splitJoined some, joinSplit]

theorem splitApart {c : Char} {s piece : List Char} (member : piece ∈ s.splitOn c) : c ∉ piece := by
  induction s generalizing piece with
  | nil =>
    rw [List.splitOn_nil, List.mem_singleton] at member
    exact member ▸ List.not_mem_nil
  | cons first rest ih =>
    rw [List.splitOn_cons_eq_if_modifyHead] at member
    split at member
    · rcases List.mem_cons.mp member with rfl | later
      · exact List.not_mem_nil
      · exact ih later
    · rename_i other
      cases split : rest.splitOn c with
      | nil => exact absurd split (List.splitOn_ne_nil c rest)
      | cons head pieces =>
        rw [split] at member ih
        rcases List.mem_cons.mp member with rfl | later
        · have different : c ≠ first := fun same => other (beq_iff_eq.mpr same.symm)
          exact List.not_mem_cons_of_ne_of_not_mem different (ih List.mem_cons_self)
        · exact ih (List.mem_cons_of_mem head later)

theorem pieceWhole {value : String} {id : MessageId} (member : id ∈ splitIds value) : id.Whole := by
  obtain ⟨piece, split, rfl⟩ := List.mem_map.mp member
  rw [MessageId.Whole, String.toList_ofList]
  exact splitApart split

theorem MessageId.Whole.pieces {id : MessageId} (whole : id.Whole) : id.pieces = [id] := by
  rw [MessageId.pieces, splitIds, List.splitOn_eq_singleton whole, List.map_singleton, String.ofList_toList]

theorem piecesIff : ids.flatMap MessageId.pieces = ids ↔ ∀ id ∈ ids, id.Whole := by
  constructor
  · intro same id member
    -- an id that is in the list is then one of the pieces, and no piece has a comma
    rw [← same] at member
    obtain ⟨_, _, piece⟩ := List.mem_flatMap.mp member
    exact pieceWhole piece
  · intro whole
    induction ids with
    | nil => rfl
    | cons id ids ih =>
      obtain ⟨first, rest⟩ := List.forall_mem_cons.mp whole
      rw [List.flatMap_cons, first.pieces, ih rest, List.singleton_append]

namespace Remote

variable {α σ : Type}

def idsSent (execute : Executor σ) (s : σ) (d : Dialogue α) : List String :=
  (d.trace execute s).flatMap fun asked => asked.1.query.filterMap fun p => if p.1 = "ids" then some p.2 else none

theorem listSends (q : Remote) (execute : Executor σ) (s : σ) (some : ids ≠ []) :
    idsSent execute s (q.list ids) = [joinIds ids] := by
  have busy : ids.isEmpty = false := List.isEmpty_eq_false_iff.mpr some
  rw [list, busy]
  rfl

theorem deletionSends (q : Remote) (execute : Executor σ) (s : σ) (some : ids ≠ []) :
    idsSent execute s (q.deleteMany ids) = [joinIds ids] := by
  have busy : ids.isEmpty = false := List.isEmpty_eq_false_iff.mpr some
  rw [deleteMany, busy]
  rfl

/-- What a parameter tells of the ids that it was made of. `sent` is what an operation sends for a list of ids. -/
structure Tells (sent : List MessageId → List String) (ids : List MessageId) (value : String) : Prop where
  alone : sent ids = [value]
  split : splitIds value = ids.flatMap MessageId.pieces
  exactly : splitIds value = ids ↔ ∀ id ∈ ids, id.Whole
  shared : ∀ others, others ≠ [] →
    (sent others = [value] ↔ others.flatMap MessageId.pieces = ids.flatMap MessageId.pieces)
  unique : ∀ others, others ≠ [] → (∀ id ∈ ids ++ others, id.Whole) → sent others = [value] → others = ids

theorem joinedTells {sent : List MessageId → List String} (sends : ∀ {ids}, ids ≠ [] → sent ids = [joinIds ids])
    (some : ids ≠ []) : Tells sent ids (joinIds ids) := by
  have shared (others : List MessageId) (someOther : others ≠ []) : sent others = [joinIds ids] ↔
      others.flatMap MessageId.pieces = ids.flatMap MessageId.pieces := by
    rw [sends someOther, List.singleton_inj, joinedIff some someOther]
  refine ⟨sends some, splitJoined some, ?_, shared, fun others someOther whole same => ?_⟩
  · rw [splitJoined some, piecesIff]
  · obtain ⟨own, other⟩ := List.forall_mem_append.mp whole
    have pieces := (shared others someOther).mp same
    rwa [piecesIff.mpr own, piecesIff.mpr other] at pieces

theorem idsTold (q : Remote) (execute : Executor σ) (s : σ) (some : ids ≠ []) :
    Tells (fun ids => idsSent execute s (q.list ids)) ids (joinIds ids) ∧
      Tells (fun ids => idsSent execute s (q.deleteMany ids)) ids (joinIds ids) :=
  ⟨joinedTells (q.listSends execute s) some, joinedTells (q.deletionSends execute s) some⟩

def silent : Executor Unit := fun _ s => (.ok .noContent, s)

theorem idsToldOfThree :
    let q : Remote := ⟨"demo", ⟨"p"⟩, rfl⟩
    let ids : List MessageId := [⟨"a,b"⟩, ⟨"c"⟩]
    ids ≠ [] ∧ splitIds "a,b,c" = [⟨"a"⟩, ⟨"b"⟩, ⟨"c"⟩] ∧
      Tells (fun ids => idsSent silent () (q.list ids)) ids "a,b,c" ∧
      Tells (fun ids => idsSent silent () (q.deleteMany ids)) ids "a,b,c" :=
  ⟨List.cons_ne_nil _ _, by decide, idsTold ⟨"demo", ⟨"p"⟩, rfl⟩ silent () (List.cons_ne_nil _ _)⟩

/-- An id with a comma, as it comes from an href, stands for two others. -/
theorem idsTornByComma :
    let q : Remote := ⟨"demo", ⟨"p"⟩, rfl⟩
    let ids : List MessageId := [⟨"a,b"⟩]
    let others : List MessageId := [⟨"a"⟩, ⟨"b"⟩]
    Href.lastSegment "/v1/queues/demo/messages/a,b" = .ok "a,b" ∧
      Href.lastSegment "/v1/queues/demo/messages/a" = .ok "a" ∧
      Href.lastSegment "/v1/queues/demo/messages/b" = .ok "b" ∧
      idsSent silent () (q.list ids) = ["a,b"] ∧ idsSent silent () (q.list others) = ["a,b"] ∧
      idsSent silent () (q.deleteMany ids) = ["a,b"] ∧ idsSent silent () (q.deleteMany others) = ["a,b"] ∧
      ids ≠ others := by
  intro q ids others
  exact ⟨rfl, rfl, rfl, rfl, rfl, rfl, rfl, by decide⟩

end Remote
end CloudClient.Queue
