import CloudClient.Proofs.Href
/-! The resource that an href names. Its id is the last segment of the path, whatever stands in front of that
and whatever the query says. -/
namespace CloudClient.Url

structure Kept (c : Char) : Prop where
  ascii : c.toNat < 0x80
  unslashed : ¬ isSlash true c
  unescaped : ¬ inPath c

theorem Kept.visible {c : Char} (kept : Kept c) : 0x20 < c.toNat :=
  have visible := asciiEach (P := fun c => ¬ inPath c → 0x20 < c.toNat) (by decide) kept.ascii
  visible kept.unescaped

structure Segment (segment : List Char) : Prop where
  some : segment ≠ []
  kept : ∀ c ∈ segment, Kept c
  single : ¬ isSingleDot segment
  double : ¬ isDoubleDot segment

structure Literal (segment : List Char) : Prop where
  some : segment ≠ []
  literal : ∀ c ∈ segment, isAlpha c ∨ isDecimal c

theorem literalAll {segment : List Char} (some : segment ≠ [])
    (all : segment.all fun c => isAlpha c || isDecimal c) : Literal segment :=
  ⟨some, fun c member => (Bool.or_eq_true _ _).mp (List.all_eq_true.mp all c member)⟩

theorem literalKept {c : Char} (literal : isAlpha c ∨ isDecimal c) : Kept c ∧ c ≠ '.' ∧ c ≠ '%' := by
  have ascii : c.toNat < 0x80 := by
    simp only [isAlpha, isDecimal, Bool.or_eq_true, Bool.and_eq_true, decide_eq_true_eq, Char.le_def,
      UInt32.le_iff_toNat_le] at literal
    have greatest : 'Z'.val.toNat = 0x5a ∧ 'z'.val.toNat = 0x7a ∧ '9'.val.toNat = 0x39 := by decide
    have code : c.val.toNat = c.toNat := rfl
    omega
  have marks := asciiEach (P := fun c => (isAlpha c ∨ isDecimal c) →
    ¬ isSlash true c ∧ ¬ inPath c ∧ c ≠ '.' ∧ c ≠ '%') (by decide) ascii
  obtain ⟨unslashed, unescaped, undotted⟩ := marks literal
  exact ⟨⟨ascii, unslashed, unescaped⟩, undotted⟩

theorem keptSegment {first : Char} {rest : List Char} (kept : ∀ c ∈ first :: rest, Kept c)
    (undotted : first ≠ '.' ∧ first ≠ '%') : Segment (first :: rest) := by
  have plain : ∀ tail, undot (first :: rest) ≠ '.' :: tail := by
    intro tail
    rw [undot]
    · exact fun same => undotted.1 (List.cons.inj same).1
    · exact fun _ same => absurd same undotted.2
    · exact fun _ same => absurd same undotted.2
  exact {
    some := List.cons_ne_nil _ _
    kept := kept
    single := by simpa [isSingleDot] using plain []
    double := by simpa [isDoubleDot] using plain ['.'] }

theorem Literal.segment {segment : List Char} (l : Literal segment) : Segment segment := by
  obtain ⟨first, rest, rfl⟩ := List.exists_cons_of_ne_nil l.some
  exact keptSegment (fun c member => (literalKept (l.literal c member)).1)
    (literalKept (l.literal first List.mem_cons_self)).2

theorem unslashedAlways {c : Char} (unslashed : ¬ isSlash true c) (special : Bool) : ¬ isSlash special c := by
  simp only [isSlash, Bool.true_and, Bool.or_eq_true, not_or] at unslashed
  simp [isSlash, unslashed]

variable {slash : Char → Bool} {segment s : List Char}

theorem splitUnslashed (unslashed : ∀ c ∈ segment, ¬ slash c) : splitSegments slash segment = [segment] := by
  induction segment with
  | nil => rfl
  | cons c segment ih =>
    obtain ⟨first, rest⟩ := List.forall_mem_cons.mp unslashed
    rw [splitSegments, if_neg first, ih rest]

theorem splitSome (slash : Char → Bool) (s : List Char) : splitSegments slash s ≠ [] := by
  cases s with
  | nil => exact List.cons_ne_nil _ _
  | cons c s =>
    rw [splitSegments]
    split
    · exact List.cons_ne_nil _ _
    · split <;> exact List.cons_ne_nil _ _

theorem splitLast (front : List Char) {c : Char} (slashed : slash c) (unslashed : ∀ c ∈ segment, ¬ slash c) :
    splitSegments slash (front ++ c :: segment) = splitSegments slash front ++ [segment] := by
  induction front with
  | nil =>
    simp only [List.nil_append, splitSegments, slashed, if_true, splitUnslashed unslashed,
      List.singleton_append]
  | cons d front ih =>
    rw [List.cons_append, splitSegments, splitSegments, ih]
    split
    · rfl
    · obtain ⟨part, parts, same⟩ := List.exists_cons_of_ne_nil (splitSome slash front)
      rw [same]
      rfl

theorem addedLast (add : List (List Char) → List Char → Bool → List (List Char)) (path before : List (List Char))
    (segment : List Char) : ∃ above, addSegments add path (before ++ [segment]) = add above segment true := by
  induction before generalizing path with
  | nil => exact ⟨path, rfl⟩
  | cons first before ih =>
    obtain ⟨above, same⟩ := ih (add path first false)
    refine ⟨above, same ▸ ?_⟩
    cases before <;> rfl

theorem Segment.added (own : Segment segment) (path : List (List Char)) (last : Bool) :
    addSegment path segment last = path ++ [segment] := by
  have kept : percentEncode inPath segment = segment :=
    percentEncodePlain fun c member => ⟨(own.kept c member).unescaped, (own.kept c member).ascii⟩
  rw [addSegment, if_neg own.double, if_neg own.single, kept]

def dotForms : List (List Char) := [['.'], ['%', '2', 'e'], ['%', '2', 'E']]

theorem undotNone {s : List Char} (none : undot s = []) : s = [] := by
  unfold undot at none
  split at none <;> first | rfl | contradiction

theorem undotDot {s rest : List Char} (starts : undot s = '.' :: rest) :
    ∃ front ∈ dotForms, ∃ tail, undot tail = rest ∧ s = front ++ tail := by
  unfold undot at starts
  split at starts <;> cases starts
  · exact ⟨['%', '2', 'e'], by decide, _, rfl, rfl⟩
  · exact ⟨['%', '2', 'E'], by decide, _, rfl, rfl⟩
  · exact ⟨['.'], by decide, _, rfl, rfl⟩

theorem singleDotText {s : List Char} (single : isSingleDot s) : percentText s = ['.'] := by
  have each : ∀ front ∈ dotForms, percentText front = ['.'] := by decide
  obtain ⟨front, dot, tail, none, rfl⟩ := undotDot (beq_iff_eq.mp single)
  rw [undotNone none, List.append_nil]
  exact each front dot

theorem doubleDotText {s : List Char} (double : isDoubleDot s) : percentText s = ['.', '.'] := by
  have each : ∀ first ∈ dotForms, ∀ second ∈ dotForms, percentText (first ++ second) = ['.', '.'] := by decide
  obtain ⟨first, dot, tail, next, rfl⟩ := undotDot (beq_iff_eq.mp double)
  obtain ⟨second, dotToo, tail, none, rfl⟩ := undotDot next
  rw [undotNone none, List.append_nil]
  exact each first dot second dotToo
structure Encodes (segment : List Char) (text : String) : Prop where
  kept : ∀ c ∈ segment, Kept c
  text : percentText segment = text.toList

theorem segmentOfEncoded {text : String} (encodes : Encodes segment text) (named : text ∉ ["", ".", ".."]) :
    Segment segment := by
  have other (written : List Char) (same : percentText segment = written) :
      String.ofList written ∉ ["", ".", ".."] := by
    rw [← same, encodes.text, String.ofList_toList]
    exact named
  refine ⟨?_, encodes.kept, fun single => ?_, fun double => ?_⟩
  · rintro rfl
    exact other [] rfl (by decide)
  · exact other ['.'] (singleDotText single) (by decide)
  · exact other ['.', '.'] (doubleDotText double) (by decide)

def EndsIn (segment s : List Char) : Prop := s = segment ∨ ∃ front, s = front ++ '/' :: segment

theorem Segment.unslashed (own : Segment segment) (special : Bool) : ∀ c ∈ segment, ¬ isSlash special c :=
  fun c member => unslashedAlways (own.kept c member).unslashed special

theorem Segment.segmentsRead (own : Segment segment) (ends : EndsIn segment s) (scheme : List Char) :
    ∃ above, readSegments scheme s = .segments (above ++ [segment]) := by
  have unslashed := own.unslashed (isSpecial scheme)
  obtain ⟨before, split⟩ : ∃ before, splitSegments (isSlash (isSpecial scheme)) s = before ++ [segment] := by
    rcases ends with rfl | ⟨front, rfl⟩
    · exact ⟨[], splitUnslashed unslashed⟩
    · exact ⟨_, splitLast front rfl unslashed⟩
  obtain ⟨above, added⟩ := addedLast addSegment [] before segment
  refine ⟨above, ?_⟩
  rw [readSegments, split, added, own.added]

theorem EndsIn.dropSlash (ends : EndsIn segment s) (own : Segment segment) (special : Bool) :
    EndsIn segment (dropSlash special s) := by
  rcases ends with rfl | ⟨front, rfl⟩
  · obtain ⟨c, segment, rfl⟩ := List.exists_cons_of_ne_nil own.some
    exact .inl (if_neg (own.unslashed special c List.mem_cons_self))
  · cases front with
    | nil => exact .inl rfl
    | cons c front =>
      by_cases slashed : isSlash special c
      · exact .inr ⟨front, if_pos slashed⟩
      · exact .inr ⟨c :: front, if_neg slashed⟩

theorem Segment.pathRead (own : Segment segment) (ends : EndsIn segment s) (scheme : List Char) :
    ∃ above, readPath scheme s = .segments (above ++ [segment]) :=
  own.segmentsRead (ends.dropSlash own _) scheme

theorem EndsIn.behind (ends : EndsIn segment ('/' :: s)) (own : Segment segment) (front : List Char) :
    EndsIn segment (front ++ '/' :: s) := by
  rcases ends with rfl | ⟨before, split⟩
  · exact absurd rfl (own.unslashed true '/' List.mem_cons_self)
  · exact .inr ⟨front ++ before, by rw [split, List.append_assoc]⟩

theorem Segment.hierarchyRead (own : Segment segment) {scheme host path : List Char} {tail : Bool} {parts : Parts}
    (unslashed : ∀ c ∈ host, ¬ isSlash (isSpecial scheme) c) (ends : EndsIn segment ('/' :: path))
    (read : readHierarchy scheme (host ++ '/' :: path) tail = .ok parts) :
    ∃ above, parts.path = .segments (above ++ [segment]) := by
  have rest : (host ++ '/' :: path).dropWhile (!isSlash (isSpecial scheme) ·) = '/' :: path := by
    rw [List.dropWhile_append_of_pos fun c member => by simp [unslashed c member]]
    rfl
  unfold readHierarchy at read
  simp only [rest] at read
  split at read
  · contradiction
  · rename_i surplus _
    cases read
    have below : (surplus ++ '/' :: path).isEmpty = false := by simp
    simp only [below, Bool.false_and, Bool.false_eq_true, if_false]
    split
    · exact own.pathRead (ends.behind own surplus) scheme
    · exact own.segmentsRead (ends.behind own surplus) scheme

theorem EndsIn.last (ends : EndsIn segment s) (own : Segment segment) {c : Char} (is : s.getLast? = some c) :
    c ∈ segment := by
  have same : s.getLast? = segment.getLast? := by
    rcases ends with rfl | ⟨front, rfl⟩
    · rfl
    · rw [List.getLast?_append, List.getLast?_cons_of_ne_nil own.some, Option.or_of_isSome]
      simpa using own.some
  exact List.mem_of_getLast? (same ▸ is)

theorem unnamedSplit (unnamed : ':' ∉ s.takeWhile (· != '/')) : splitScheme s = none := by
  unfold splitScheme
  split
  · rename_i rest _ is
    have before : ∀ c ∈ s.takeWhile inScheme, (c != '/') = true := by
      intro c member
      refine bne_iff_ne.mpr ?_
      rintro rfl
      exact absurd (List.mem_takeWhile_imp member) (by decide)
    have whole : s = s.takeWhile inScheme ++ ':' :: rest := by rw [← is, List.takeWhile_append_dropWhile]
    refine absurd ?_ unnamed
    rw [whole, List.takeWhile_append_of_pos before]
    exact List.mem_append_right _ List.mem_cons_self
  · rfl

theorem readNear {origin : Origin} {tail : Bool} (first : ∀ c, s.head? = some c → ¬ isSlash true c)
    (unnamed : ':' ∉ s.takeWhile (· != '/')) (plain : ∀ c ∈ s, ¬ isBreak c) (special : isSpecial origin.scheme) :
    readParts (some origin) s tail = .ok ⟨origin.scheme, origin.host, origin.port, readPath origin.scheme s⟩ := by
  have whole : unbroken s = s := unbrokenPlain plain
  unfold readParts
  simp only [whole, unnamedSplit unnamed]
  unfold readRelative
  split
  · exact absurd rfl (first '/' rfl)
  · rename_i c _ _ _
    have other := first c rfl
    simp [special, other]
  · rfl

theorem parsedBare {base : List Char} {origin : Option Origin} {parts : Parts}
    (first : ∀ c, base.head? = some c → 0x20 < c.toNat) (last : ∀ c, base.getLast? = some c → 0x20 < c.toNat)
    (plain : ∀ c ∈ base, c ≠ '?' ∧ c ≠ '#') (read : readParts origin base false = .ok parts) :
    Url.parse origin (String.ofList base) = .ok ⟨parts.scheme, parts.host, parts.port, parts.path, none, none⟩ := by
  have whole := Form.splitFirstWhole fun member => (plain '#' member).2 rfl
  have bare := Form.splitFirstWhole fun member => (plain '?' member).1 rfl
  unfold Url.parse
  simp only [String.toList_ofList, trimNothing first last, whole, bare, Option.isSome_none, Bool.or_self, read,
    Option.map_none]

end CloudClient.Url

namespace CloudClient.Href

open CloudClient.Url

inductive Resource (id : List Char) : List Char → Prop
  | rooted {path} (single : ∀ c, path.head? = some c → c ≠ '/' ∧ c ≠ '\\')
      (plain : ∀ c ∈ path, c ≠ '?' ∧ c ≠ '#' ∧ ¬ isBreak c) (ends : EndsIn id ('/' :: path)) :
      Resource id ('/' :: path)
  | relative {path} (first : ∀ c, path.head? = some c → 0x20 < c.toNat ∧ c ≠ '/' ∧ c ≠ '\\')
      (plain : ∀ c ∈ path, c ≠ '?' ∧ c ≠ '#' ∧ c ≠ ':' ∧ ¬ isBreak c) (ends : EndsIn id path) : Resource id path
  | url {scheme host path} (web : Web scheme) (hosted : host ≠ []) (unslashed : ∀ c ∈ host, ¬ isSlash true c)
      (plain : ∀ c ∈ host ++ '/' :: path, 0x20 < c.toNat ∧ c ≠ '?' ∧ c ≠ '#')
      (valid : (Url.parse none (String.ofList (scheme ++ "://".toList ++ (host ++ '/' :: path)))).isOk)
      (ends : EndsIn id ('/' :: path)) : Resource id (scheme ++ "://".toList ++ (host ++ '/' :: path))

variable {id base : List Char}

theorem Resource.ends (own : Segment id) (names : Resource id base) : EndsIn id base := by
  cases names with
  | rooted _ _ ends => exact ends
  | relative _ _ ends => exact ends
  | url _ _ _ _ _ ends =>
    rw [← List.append_assoc]
    exact ends.behind own _

theorem Resource.plain (names : Resource id base) :
    (∀ c, base.head? = some c → 0x20 < c.toNat) ∧ ∀ c ∈ base, c ≠ '?' ∧ c ≠ '#' := by
  cases names with
  | rooted single plain => exact (Base.path single plain).plain
  | relative first plain =>
    exact ⟨fun c is => (first c is).1, fun c member => ⟨(plain c member).1, (plain c member).2.1⟩⟩
  | url web _ _ plain valid => exact (Base.url web plain valid).plain

theorem Resource.read (own : Segment id) (names : Resource id base) :
    ∃ parts, (∀ tail, readParts (some origin) base tail = .ok parts) ∧
      ∃ above, parts.path = .segments (above ++ [id]) := by
  have special : isSpecial origin.scheme := by decide
  cases names with
  | @rooted path single plain ends =>
    have unslashed : ∀ c, path.head? = some c → ¬ isSlash true c := fun c is => noSlash (single c is)
    have unbroken : ∀ c ∈ path, ¬ isBreak c := fun c member => (plain c member).2.2
    exact ⟨_, fun tail => readRooted unslashed unbroken special, own.pathRead ends _⟩
  | relative first plain ends =>
    have unslashed : ∀ c, base.head? = some c → ¬ isSlash true c := fun c is => noSlash (first c is).2
    have unnamed : ':' ∉ base.takeWhile (· != '/') := fun member =>
      (plain ':' ((List.takeWhile_prefix _).subset member)).2.2.1 rfl
    have unbroken : ∀ c ∈ base, ¬ isBreak c := fun c member => (plain c member).2.2.2
    exact ⟨_, fun tail => readNear unslashed unnamed unbroken special, own.pathRead ends _⟩
  | @url scheme host path web hosted unslashed plain valid ends =>
    obtain ⟨parts, inner, read⟩ := validRead web plain valid
    obtain ⟨c, host, rfl⟩ := List.exists_cons_of_ne_nil hosted
    have below : ("//".toList ++ (c :: host ++ '/' :: path)).dropWhile (isSlash true) = c :: host ++ '/' :: path :=
      List.dropWhile_cons_of_neg (unslashed c List.mem_cons_self)
    rw [below] at inner
    exact ⟨parts, read, own.hierarchyRead (web.special ▸ unslashed) ends inner⟩

variable {url : Url}

theorem parsedIff {href : String} : parse href = .ok url ↔ Url.parse (some origin) href = .ok url := by
  unfold parse
  cases Url.parse (some origin) href with
  | error e => exact iff_of_false nofun nofun
  | ok found => simp only [Except.mapError, Except.ok.injEq]

theorem segmentOfPath {above : List (List Char)} {href : String} (parsed : parse href = .ok url) (own : Segment id)
    (path : url.path = .segments (above ++ [id])) : lastSegment href = .ok (String.ofList id) := by
  have segments : url.pathSegments = some (above ++ [id]) := by
    unfold Url.pathSegments
    rw [path]
    cases above <;> rfl
  have last : ((above ++ [id]).filter (· != [])).getLast? = some id := by
    have kept : [id].filter (· != []) = [id] := List.filter_eq_self.mpr (by simpa using own.some)
    rw [List.filter_append, kept, List.getLast?_concat]
  simp only [lastSegment, parsed, Except.bind, segments, Option.getD_some, last]

theorem Resource.bare (own : Segment id) (names : Resource id base) (name : String) :
    lastSegment (String.ofList base) = .ok (String.ofList id) ∧ queryParam (String.ofList base) name = .ok none := by
  obtain ⟨parts, read, above, path⟩ := names.read own
  have last (c : Char) (is : base.getLast? = some c) : 0x20 < c.toNat :=
    (own.kept c ((names.ends own).last own is)).visible
  have whole := parsedIff.mpr (parsedBare names.plain.1 last names.plain.2 (read false))
  refine ⟨segmentOfPath whole own path, ?_⟩
  rw [queryParam, whole]
  rfl

theorem Resource.asked (own : Segment id) (names : Resource id base) {query : List Char}
    (unmarked : ∀ c ∈ query, Unmarked c) (name : String) :
    let href := String.ofList (base ++ '?' :: query)
    lastSegment href = .ok (String.ofList id) ∧
      queryParam href name = .ok ((Form.firstValue name (Form.decode query)).filter (· != "")) := by
  intro href
  obtain ⟨parts, read, above, path⟩ := names.read own
  obtain ⟨url, parsed, found, same⟩ := parsedQuery unmarked names.plain.1 names.plain.2 (read true)
  have whole : parse href = .ok url := parsedIff.mpr parsed
  refine ⟨segmentOfPath whole own (found.trans path), ?_⟩
  simp only [queryParam, whole, Except.map, same]

end CloudClient.Href
