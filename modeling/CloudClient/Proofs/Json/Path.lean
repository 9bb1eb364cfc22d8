import CloudClient.Json.Path
/-! A dotted path goes from object to object by its keys. What it finds is what the keys lead to, and it finds
nothing exactly where they come to a value that lacks the next one. Hence two paths with a dot between them are
followed one after the other, unless the dot makes something else of one of them: `$` in front of a dot is dropped,
and `$.` or nothing behind one is a key. -/
namespace CloudClient.Json

inductive Leads : Json → List String → Json → Prop
  | here (v : Json) : Leads v [] v
  | into {members : Members} {key : String} {keys : List String} {member x : Json}
      (found : members.get? key = some member) (onward : Leads member keys x) : Leads (.object members) (key :: keys) x

def Lacks (v : Json) (key : String) : Prop := ∀ members, v = .object members → key ∉ members.map (·.1)

def Breaks (v : Json) (keys : List String) : Prop :=
  ∃ front key back w, keys = front ++ key :: back ∧ v.Leads front w ∧ w.Lacks key

variable {v x : Json} {keys : List String}

theorem memberIff {key : String} {member : Json} :
    v.get? key = some member ↔ ∃ members, v = .object members ∧ Members.get? members key = some member := by
  cases v <;> simp [get?]

theorem lacksIff {key : String} : v.Lacks key ↔ v.get? key = none := by
  cases v with
  | object members =>
    have absent : Members.get? members key = none ↔ key ∉ members.map (·.1) := by
      simp only [Members.get?, Option.map_eq_none_iff, List.find?_eq_none, beq_iff_eq, List.mem_map, not_exists,
        not_and]
    rw [get?, absent]
    exact ⟨fun lacks => lacks members rfl, fun absent _ same => Json.object.inj same ▸ absent⟩
  | null | bool | number | string | array => simp [Lacks, get?]

theorem descendIff : v.descend keys = some x ↔ v.Leads keys x := by
  induction keys generalizing v with
  | nil =>
    constructor
    · intro found
      cases found
      exact .here _
    · intro leads
      cases leads
      rfl
  | cons key keys ih =>
    rw [descend]
    constructor
    · intro found
      split at found
      · rename_i member got
        obtain ⟨members, rfl, inside⟩ := memberIff.mp got
        exact .into inside (ih.mp found)
      · contradiction
    · intro leads
      cases leads with
      | into inside onward =>
        rw [memberIff.mpr ⟨_, rfl, inside⟩]
        exact ih.mpr onward

theorem descendAppend (front back : List String) (v : Json) :
    v.descend (front ++ back) = (v.descend front).bind fun w => w.descend back := by
  induction front generalizing v with
  | nil => rfl
  | cons key front ih =>
    rw [List.cons_append, descend, descend]
    cases v.get? key with
    | none => rfl
    | some member => exact ih member

theorem Lacks.stops {w : Json} {front back : List String} {key : String} (leads : v.Leads front w)
    (lacks : w.Lacks key) : v.descend (front ++ key :: back) = none := by
  rw [descendAppend, descendIff.mpr leads, Option.bind_some, descend, lacksIff.mp lacks]

theorem breaksIff : v.descend keys = none ↔ v.Breaks keys := by
  constructor
  · intro nothing
    -- on the keys: the first of them is lacking, or the rest breaks below its member
    induction keys generalizing v with
    | nil => nomatch nothing
    | cons key keys ih =>
      cases got : v.get? key with
      | none => exact ⟨[], key, keys, v, rfl, .here v, lacksIff.mpr got⟩
      | some member =>
        obtain ⟨members, rfl, inside⟩ := memberIff.mp got
        rw [descend, got] at nothing
        obtain ⟨front, next, back, w, rfl, leads, lacks⟩ := ih nothing
        exact ⟨key :: front, next, back, w, rfl, .into inside leads, lacks⟩
  · rintro ⟨front, key, back, w, rfl, leads, lacks⟩
    exact lacks.stops leads

def members : Json → Members
  | .object members => members
  | _ => []

def place (v : Json) (keys : List String) (x : Json) : Json :=
  match keys with
  | [] => x
  | key :: keys => .object (v.members.put key (((v.get? key).getD .null).place keys x))

theorem Members.getPut (members : Members) (key : String) (value : Json) :
    (members.put key value).get? key = some value := by
  induction members with
  | nil => simp [put, get?]
  | cons first rest ih =>
    rw [put]
    split
    · simp [get?]
    · split
      · simp [get?]
      · rename_i other
        have passed : (first.1 == key) = false := beq_eq_false_iff_ne.mpr fun same => other same.symm
        simpa only [get?, List.find?_cons, passed] using ih

theorem placedLeads (v : Json) (keys : List String) (x : Json) : (v.place keys x).Leads keys x := by
  induction keys generalizing v with
  | nil => exact .here x
  | cons key keys ih => exact .into (Members.getPut _ _ _) (ih _)

theorem splitDotsOn (path : List Char) : splitDots path = path.splitOn '.' := by
  induction path with
  | nil => rfl
  | cons c path ih =>
    rw [splitDots, ih, List.splitOn_cons_eq_if_modifyHead]
    cases parts : path.splitOn '.' with
    | nil => exact absurd parts (List.splitOn_ne_nil '.' path)
    | cons part parts => simp

theorem splitDotsJoined (s t : List Char) : splitDots (s ++ '.' :: t) = splitDots s ++ splitDots t := by
  simp only [splitDotsOn, List.splitOn_append_cons_self]

def Names (path : List Char) : Prop := path ≠ [] ∧ path ≠ ['$']

theorem keysNamed {path : String} (names : Names (stripRoot path.toList)) :
    keysOf path = (splitDots (stripRoot path.toList)).map String.ofList :=
  if_neg (not_or.mpr names)

theorem stripUnrooted {path : List Char} (unrooted : ¬ ['$', '.'] <+: path) : stripRoot path = path := by
  unfold stripRoot
  split
  · exact absurd ⟨_, rfl⟩ unrooted
  · rfl

theorem stripJoined {s : List Char} (other : s ≠ ['$']) (t : List Char) :
    stripRoot (s ++ '.' :: t) = stripRoot s ++ '.' :: t := by
  match s with
  | [] => rfl
  | [c] =>
    have first : c ≠ '$' := fun same => other (congrArg (fun c => [c]) same)
    rw [stripUnrooted, stripUnrooted] <;> simp [List.cons_prefix_cons, first.symm]
  | c :: d :: rest =>
    by_cases rooted : ['$', '.'] <+: c :: d :: rest
    · obtain ⟨behind, same⟩ := rooted
      rw [← same]
      rfl
    · have kept : ¬ ['$', '.'] <+: c :: d :: rest ++ '.' :: t := by
        simpa [List.cons_prefix_cons] using rooted
      rw [stripUnrooted rooted, stripUnrooted kept]

theorem keysJoined {p q : String} (first : Names (stripRoot p.toList)) (second : Names q.toList)
    (unrooted : ¬ ['$', '.'] <+: q.toList) : keysOf (p ++ "." ++ q) = keysOf p ++ keysOf q := by
  have chars : (p ++ "." ++ q).toList = p.toList ++ '.' :: q.toList := by
    simp only [String.toList_append, List.append_assoc]
    rfl
  have other : p.toList ≠ ['$'] := fun root => first.2 (by rw [root]; rfl)
  have stripped : stripRoot (p ++ "." ++ q).toList = stripRoot p.toList ++ '.' :: q.toList := by
    rw [chars, stripJoined other]
  have whole : Names (stripRoot p.toList ++ '.' :: q.toList) := by
    refine ⟨List.append_ne_nil_of_left_ne_nil first.1 _, fun root => ?_⟩
    rcases List.append_eq_singleton_iff.mp root with ⟨none, _⟩ | ⟨_, none⟩
    · exact first.1 none
    · nomatch none
  have behind : stripRoot q.toList = q.toList := stripUnrooted unrooted
  rw [keysNamed (stripped ▸ whole), keysNamed first, keysNamed (behind.symm ▸ second), stripped, behind,
    splitDotsJoined, List.map_append]

theorem lookupJoined {p q : String} (first : Names (stripRoot p.toList)) (second : Names q.toList)
    (unrooted : ¬ ['$', '.'] <+: q.toList) (v : Json) :
    v.lookup (p ++ "." ++ q) = (v.lookup p).bind fun w => w.lookup q := by
  simp only [lookup, keysJoined first second unrooted, descendAppend]

def dotted (keys : List String) : String := ".".intercalate keys

/-- The chain can be read off its path. Of one empty key the path is empty, and `$` in front would be the root. -/
structure Spelled (keys : List String) : Prop where
  undotted : ∀ key ∈ keys, '.' ∉ key.toList
  full : keys ≠ [""]
  unrooted : keys.head? ≠ some "$"

theorem splitDotted (spelled : Spelled keys) (nonempty : keys ≠ []) :
    splitDots (dotted keys).toList = keys.map String.toList := by
  have apart : ∀ part ∈ keys.map String.toList, '.' ∉ part := by
    simpa using spelled.undotted
  rw [splitDotsOn, dotted, String.toList_intercalate]
  exact List.splitOn_intercalate '.' apart (by simpa using nonempty)

theorem Spelled.first (spelled : Spelled keys) (nonempty : keys ≠ []) :
    (splitDots (dotted keys).toList).head? ≠ some ['$'] := by
  intro root
  rw [splitDotted spelled nonempty, List.head?_map] at root
  obtain ⟨key, head, sign⟩ := Option.map_eq_some_iff.mp root
  exact spelled.unrooted (head.trans (congrArg some (String.toList_inj.mp sign)))

theorem Spelled.names (spelled : Spelled keys) (nonempty : keys ≠ []) : Names (dotted keys).toList := by
  constructor
  · intro none
    have split := splitDotted spelled nonempty
    rw [none] at split
    have single : keys.map String.toList = [""].map String.toList := split.symm
    exact spelled.full ((List.map_inj_right fun _ _ => String.toList_inj.mp).mp single)
  · intro root
    exact spelled.first nonempty (by rw [root]; rfl)

theorem Spelled.strip (spelled : Spelled keys) : stripRoot (dotted keys).toList = (dotted keys).toList := by
  by_cases nonempty : keys = []
  · subst nonempty
    rfl
  · -- `$.` in front would make `$` the first key
    refine stripUnrooted fun ⟨rest, rooted⟩ => spelled.first nonempty ?_
    have split := splitDotsJoined ['$'] rest
    rw [← rooted]
    exact congrArg List.head? split

theorem Spelled.read {path : String} (spelled : Spelled keys)
    (strips : stripRoot path.toList = (dotted keys).toList) : keysOf path = keys := by
  by_cases nonempty : keys = []
  · subst nonempty
    exact if_pos (.inl strips)
  · rw [keysNamed (strips ▸ spelled.names nonempty), strips, splitDotted spelled nonempty]
    simp

theorem Spelled.written (spelled : Spelled keys) {path : String} (written : path ∈ [dotted keys, "$." ++ dotted keys]) :
    keysOf path = keys := by
  simp only [List.mem_cons, List.not_mem_nil, or_false] at written
  rcases written with rfl | rfl
  · exact spelled.read spelled.strip
  · refine spelled.read ?_
    rw [String.toList_append]
    rfl

theorem keysWhole {name : String} (named : name ≠ "") (undotted : '.' ∉ name.toList) (other : name ≠ "$") :
    keysOf name = [name] := by
  have spelled : Spelled [name] := ⟨by simpa using undotted, by simpa using named, by simpa using other⟩
  exact spelled.written List.mem_cons_self

theorem lookupWhole {name : String} (named : name ≠ "") (undotted : '.' ∉ name.toList) (other : name ≠ "$")
    (v : Json) : v.lookup name = v.get? name := by
  rw [lookup, keysWhole named undotted other, descend]
  cases v.get? name <;> rfl

theorem pathFollowed :
    (∀ (v : Json) (p q : String), Names (stripRoot p.toList) → Names q.toList → ¬ ['$', '.'] <+: q.toList →
      ∀ x, v.lookup (p ++ "." ++ q) = some x ↔ ∃ w, v.lookup p = some w ∧ w.lookup q = some x) ∧
    (∀ keys, Spelled keys → ∀ path ∈ [dotted keys, "$." ++ dotted keys], ∀ v : Json,
      (∀ x, v.lookup path = some x ↔ v.Leads keys x) ∧ (∀ x, (v.place keys x).lookup path = some x) ∧
        (v.lookup path = none ↔ v.Breaks keys)) ∧
    ∀ (v : Json) (path : String), v.lookup path = none ↔ v.Breaks (keysOf path) := by
  refine ⟨?joined, ?chain, fun v path => breaksIff⟩
  case joined =>
    intro v p q first second unrooted x
    rw [lookupJoined first second unrooted, Option.bind_eq_some_iff]
  case chain =>
    intro keys spelled path written v
    have same : keysOf path = keys := spelled.written written
    simp only [lookup, same]
    exact ⟨fun x => descendIff, fun x => descendIff.mpr (placedLeads v keys x), breaksIff⟩

def nested : Json := .object [("a", .object [("$", .object [("b", .ofNat 3)]), ("l", .array [.null])])]

theorem followedThroughASign :
    Names (stripRoot "$.a.$".toList) ∧ Names "b".toList ∧ ¬ ['$', '.'] <+: "b".toList ∧ Spelled ["a", "l", "c"] ∧
      nested.lookup ("$.a.$" ++ "." ++ "b") = some (.ofNat 3) ∧ nested.lookup "$.a.l.c" = none ∧
      (nested.place ["a", "l", "c"] .null).lookup "a.l.c" = some .null := by
  have first : Names (stripRoot "$.a.$".toList) := ⟨by decide, by decide⟩
  have second : Names "b".toList := ⟨by decide, by decide⟩
  have spelled : Spelled ["a", "l", "c"] := ⟨by decide, by decide, by decide⟩
  obtain ⟨joined, chain, _⟩ := pathFollowed
  have rooted := chain ["a", "l", "c"] spelled "$.a.l.c" (by decide) nested
  have plain := chain ["a", "l", "c"] spelled "a.l.c" (by decide) nested
  exact ⟨first, second, by decide, spelled, (joined nested "$.a.$" "b" first second (by decide) _).mpr ⟨_, rfl, rfl⟩,
    rooted.2.2.mpr ⟨["a", "l"], "c", [], .array [.null], rfl, .into rfl (.into rfl (.here _)), nofun⟩, plain.2.1 .null⟩

end CloudClient.Json
