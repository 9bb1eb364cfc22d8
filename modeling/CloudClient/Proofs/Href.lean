import CloudClient.Href
import CloudClient.Proofs.Url.Form
/-! A parameter in the query of an href. Whatever stands in front of the query, an absolute path or a whole
URL, does not change what the query says. -/
namespace CloudClient.Url

theorem dropNothing {p : Char → Bool} {s : List Char} (first : ∀ c, s.head? = some c → ¬ p c) :
    s.dropWhile p = s := by
  cases s with
  | nil => rfl
  | cons c s => exact List.dropWhile_cons_of_neg (first c rfl)

theorem trimNothing {s : List Char} (first : ∀ c, s.head? = some c → 0x20 < c.toNat)
    (last : ∀ c, s.getLast? = some c → 0x20 < c.toNat) : trim s = s := by
  have front : s.dropWhile (fun c => decide (c.toNat ≤ 0x20)) = s :=
    dropNothing fun c is => by simpa using first c is
  have back : s.reverse.dropWhile (fun c => decide (c.toNat ≤ 0x20)) = s.reverse :=
    dropNothing fun c is => by simpa using last c (List.head?_reverse ▸ is)
  simp only [trim, front, back, List.reverse_reverse]

theorem unbrokenPlain {s : List Char} (plain : ∀ c ∈ s, ¬ isBreak c) : unbroken s = s :=
  List.filter_eq_self.mpr fun c member => by simpa using plain c member

theorem percentEncodePlain {escaped : Char → Bool} {s : List Char}
    (plain : ∀ c ∈ s, ¬ escaped c ∧ c.toNat < 0x80) : percentEncode escaped s = s := by
  induction s with
  | nil => rfl
  | cons c s ih =>
    obtain ⟨⟨free, ascii⟩, rest⟩ := List.forall_mem_cons.mp plain
    have own : ¬ (escaped c || decide (0x80 ≤ c.toNat)) = true := by simp [free, ascii]
    rw [percentEncode, List.flatMap_cons, if_neg own, List.singleton_append]
    exact congrArg (c :: ·) (ih rest)

variable {scheme rest : List Char} {tail : Bool} {origin : Origin}

theorem authorityFollowed (special : isSpecial scheme) (authority : List Char) (followed : Bool) :
    readAuthority scheme authority followed = readAuthority scheme authority true := by
  unfold readAuthority
  by_cases alone : (splitCredentials authority).2 = []
  · simp [alone, splitHost, special]
  · have some : (splitCredentials authority).2.isEmpty = false := by simpa using alone
    simp only [some, Bool.and_false, Bool.false_and]

theorem hierarchyTail (special : isSpecial scheme) (s : List Char) (tail : Bool) :
    readHierarchy scheme s tail = readHierarchy scheme s true := by
  unfold readHierarchy
  simp only [authorityFollowed special (s.takeWhile _) (tail || _), Bool.true_or]

theorem noSlash {c : Char} (other : c ≠ '/' ∧ c ≠ '\\') : ¬ isSlash true c := by
  simp [isSlash, other]

theorem readRooted (rooted : ∀ c, rest.head? = some c → ¬ isSlash true c) (plain : ∀ c ∈ rest, ¬ isBreak c)
    (special : isSpecial origin.scheme) :
    readParts (some origin) ('/' :: rest) tail =
      .ok ⟨origin.scheme, origin.host, origin.port, readPath origin.scheme ('/' :: rest)⟩ := by
  have whole : unbroken ('/' :: rest) = '/' :: rest :=
    unbrokenPlain (List.forall_mem_cons.mpr ⟨by decide, plain⟩)
  have relative : splitScheme ('/' :: rest) = none := by
    have first : ('/' :: rest).dropWhile inScheme = '/' :: rest := List.dropWhile_cons_of_neg (by decide)
    simp [splitScheme, first]
  unfold readParts
  simp only [whole, relative]
  unfold readRelative
  cases rest with
  | nil => rfl
  | cons c rest =>
    have other : ¬ isSlash true c := rooted c rfl
    have single : c ≠ '/' := by
      rintro rfl
      exact other (by decide)
    simp [special, other, single]

theorem alphaVisible {c : Char} (letter : isAlpha c) : 0x40 < c.toNat := by
  simp only [isAlpha, Bool.or_eq_true, Bool.and_eq_true, decide_eq_true_eq, Char.le_def,
    UInt32.le_iff_toNat_le] at letter
  have least : 'A'.val.toNat = 0x41 ∧ 'a'.val.toNat = 0x61 := by decide
  have code : c.val.toNat = c.toNat := rfl
  omega

theorem visibleJoined {c : Char} (visible : 0x20 < c.toNat) : ¬ isBreak c := by
  intro breaks
  simp only [isBreak, Bool.or_eq_true, beq_iff_eq] at breaks
  rcases breaks with (rfl | rfl) | rfl <;> exact absurd visible (by decide)

structure Web (scheme : List Char) : Prop where
  letters : ∀ c ∈ scheme, isAlpha c
  http : scheme.map Char.toLower = "http".toList ∨ scheme.map Char.toLower = "https".toList

theorem Web.special (web : Web scheme) : isSpecial (scheme.map Char.toLower) := by
  rcases web.http with same | same <;> rw [same] <;> decide

theorem Web.other (web : Web scheme) : ¬ isFile (scheme.map Char.toLower) := by
  rcases web.http with same | same <;> rw [same] <;> decide

theorem Web.plain (web : Web scheme) (plain : ∀ c ∈ rest, 0x20 < c.toNat ∧ c ≠ '?' ∧ c ≠ '#') :
    ∀ c ∈ scheme ++ "://".toList ++ rest, 0x20 < c.toNat ∧ c ≠ '?' ∧ c ≠ '#' := by
  have mark : "://".toList.all fun c => 0x20 < c.toNat ∧ c ≠ '?' ∧ c ≠ '#' := by decide
  intro c member
  rcases List.mem_append.mp member with front | behind
  · rcases List.mem_append.mp front with letter | between
    · have visible := alphaVisible (web.letters c letter)
      refine ⟨by omega, ?_, ?_⟩ <;> rintro rfl <;> exact absurd visible (by decide)
    · simpa using List.all_eq_true.mp mark c between
  · exact plain c behind

theorem Web.split (web : Web scheme) (rest : List Char) :
    splitScheme (scheme ++ "://".toList ++ rest) = some (scheme.map Char.toLower, "//".toList ++ rest) := by
  have inside : ∀ c ∈ scheme, inScheme c := fun c member => by simp [inScheme, web.letters c member]
  cases scheme with
  | nil => rcases web.http with none | none <;> exact absurd none (by decide)
  | cons first scheme =>
    have taken : ("://".toList ++ rest).takeWhile inScheme = [] := List.takeWhile_cons_of_neg (by decide)
    have left : ("://".toList ++ rest).dropWhile inScheme = "://".toList ++ rest :=
      List.dropWhile_cons_of_neg (by decide)
    rw [List.append_assoc]
    unfold splitScheme
    rw [List.takeWhile_append_of_pos inside, List.dropWhile_append_of_pos inside, taken, left, List.append_nil]
    exact if_pos (web.letters first List.mem_cons_self)

theorem Web.read (web : Web scheme) (plain : ∀ c ∈ rest, 0x20 < c.toNat ∧ c ≠ '?' ∧ c ≠ '#')
    (origin : Option Origin) (tail : Bool) :
    readParts origin (scheme ++ "://".toList ++ rest) tail =
      readHierarchy (scheme.map Char.toLower) (("//".toList ++ rest).dropWhile (isSlash true)) true := by
  have whole : unbroken (scheme ++ "://".toList ++ rest) = scheme ++ "://".toList ++ rest :=
    unbrokenPlain fun c member => visibleJoined (web.plain plain c member).1
  have far : ¬ (("//".toList ++ rest).takeWhile (isSlash true)).length < 2 := by
    have slashes : ("//".toList ++ rest).takeWhile (isSlash true) = '/' :: '/' :: rest.takeWhile (isSlash true) := rfl
    rw [slashes, List.length_cons, List.length_cons]
    omega
  unfold readParts
  simp only [whole, web.split, if_neg web.other, if_pos web.special, hierarchyTail web.special _ tail]
  cases origin with
  | none => rfl
  | some origin => simp only [far, decide_false, Bool.false_and, if_neg Bool.false_ne_true]

theorem asciiEach {P : Char → Prop} (each : ∀ n < 0x80, P (Char.ofNat n)) {c : Char} (ascii : c.toNat < 0x80) : P c :=
  Char.ofNat_toNat c ▸ each c.toNat ascii

structure Unmarked (c : Char) : Prop where
  visible : 0x20 < c.toNat
  ascii : c.toNat < 0x80
  inside : c ≠ '#'
  joined : ¬ isBreak c
  unescaped : ¬ inQuery true c

theorem writtenUnmarked {c : Char} (written : Form.isWritten c ∨ c = '=' ∨ c = '&') : Unmarked c := by
  have ascii : c.toNat < 0x80 := by
    rcases written with written | rfl | rfl
    · simp only [Form.isWritten, Bool.or_eq_true, beq_iff_eq] at written
      rcases written with (plain | rfl) | rfl
      · have range := Form.plainRange plain
        omega
      · decide
      · decide
    · decide
    · decide
  have marks := asciiEach (P := fun c => (Form.isWritten c ∨ c = '=' ∨ c = '&') →
    0x20 < c.toNat ∧ c ≠ '#' ∧ ¬ isBreak c ∧ ¬ inQuery true c) (by decide) ascii
  obtain ⟨visible, inside, joined, unescaped⟩ := marks written
  exact ⟨visible, ascii, inside, joined, unescaped⟩

theorem encodedUnmarked (pairs : List (String × String)) : ∀ c ∈ Form.encode pairs, Unmarked c :=
  fun c member => writtenUnmarked (Form.queryWritten c member)

theorem queryKept {query : List Char} (unmarked : ∀ c ∈ query, Unmarked c) (special : Bool) :
    percentEncode (inQuery special) (unbroken query) = query := by
  rw [unbrokenPlain fun c member => (unmarked c member).joined]
  refine percentEncodePlain fun c member => ⟨fun escaped => (unmarked c member).unescaped ?_, (unmarked c member).ascii⟩
  cases special with
  | true => exact escaped
  | false => simpa [inQuery] using .inl (by simpa [inQuery] using escaped)

section Queried

variable {base query : List Char}

theorem trimQueried (unmarked : ∀ c ∈ query, Unmarked c) :
    trim (base ++ '?' :: query) = base.dropWhile (fun c => decide (c.toNat ≤ 0x20)) ++ '?' :: query := by
  have mark : ('?' :: query).dropWhile (fun c => decide (c.toNat ≤ 0x20)) = '?' :: query :=
    List.dropWhile_cons_of_neg (by decide)
  have front : (base ++ '?' :: query).dropWhile (fun c => decide (c.toNat ≤ 0x20)) =
      base.dropWhile (fun c => decide (c.toNat ≤ 0x20)) ++ '?' :: query := by
    rw [List.dropWhile_append, mark]
    split
    · rename_i none
      rw [List.isEmpty_iff.mp none, List.nil_append]
    · rfl
  have back (front : List Char) :
      (front ++ '?' :: query).reverse.dropWhile (fun c => decide (c.toNat ≤ 0x20)) =
        (front ++ '?' :: query).reverse := by
    refine dropNothing fun c is => ?_
    rw [List.head?_reverse, List.getLast?_append, List.getLast?_eq_some_getLast (List.cons_ne_nil _ _),
      Option.some_or] at is
    rcases List.mem_cons.mp (Option.some.inj is ▸ List.getLast_mem (List.cons_ne_nil _ _)) with rfl | member
    · decide
    · simpa using (unmarked c member).visible
  simp only [trim, front, back, List.reverse_reverse]

theorem queriedWhole (unmarked : ∀ c ∈ query, Unmarked c) (plain : ∀ c ∈ base, c ≠ '?' ∧ c ≠ '#') :
    '#' ∉ base ++ '?' :: query := by
  intro member
  rcases List.mem_append.mp member with front | behind
  · exact (plain '#' front).2 rfl
  · rcases List.mem_cons.mp behind with same | inside
    · contradiction
    · exact (unmarked '#' inside).inside rfl

theorem splitQueried (unmarked : ∀ c ∈ query, Unmarked c) (plain : ∀ c ∈ base, c ≠ '?' ∧ c ≠ '#') :
    Form.splitFirst '#' (base ++ '?' :: query) = (base ++ '?' :: query, none) ∧
      Form.splitFirst '?' (base ++ '?' :: query) = (base, some query) :=
  ⟨Form.splitFirstWhole (queriedWhole unmarked plain),
    Form.splitFirstNext (fun member => (plain '?' member).1 rfl) query⟩

theorem parsedPairs {origin : Option Origin} {url : Url} (unmarked : ∀ c ∈ query, Unmarked c)
    (plain : ∀ c ∈ base, c ≠ '?' ∧ c ≠ '#')
    (parsed : Url.parse origin (String.ofList (base ++ '?' :: query)) = .ok url) :
    url.queryPairs = Form.decode query := by
  obtain ⟨whole, cut⟩ := splitQueried unmarked fun c member =>
    plain c ((List.dropWhile_suffix fun c => decide (c.toNat ≤ 0x20)).subset member)
  unfold Url.parse at parsed
  simp only [String.toList_ofList, trimQueried unmarked, whole, cut, Option.map_some, Function.comp_apply,
    queryKept unmarked] at parsed
  split at parsed
  · contradiction
  · cases parsed
    rfl

theorem parsedQuery {origin : Option Origin} {parts : Parts} (unmarked : ∀ c ∈ query, Unmarked c)
    (first : ∀ c, base.head? = some c → 0x20 < c.toNat) (plain : ∀ c ∈ base, c ≠ '?' ∧ c ≠ '#')
    (read : readParts origin base true = .ok parts) :
    ∃ url, Url.parse origin (String.ofList (base ++ '?' :: query)) = .ok url ∧
      url.path = parts.path ∧ url.queryPairs = Form.decode query := by
  have trimmed : trim (base ++ '?' :: query) = base ++ '?' :: query := by
    rw [trimQueried unmarked, dropNothing fun c is => by simpa using first c is]
  obtain ⟨whole, cut⟩ := splitQueried unmarked plain
  have parsed : ∃ url, Url.parse origin (String.ofList (base ++ '?' :: query)) = .ok url ∧ url.path = parts.path := by
    unfold Url.parse
    simp only [String.toList_ofList, trimmed, whole, cut, Option.isSome_some, Bool.true_or, read]
    exact ⟨_, rfl, rfl⟩
  obtain ⟨url, parsed, path⟩ := parsed
  exact ⟨url, parsed, path, parsedPairs unmarked plain parsed⟩

end Queried

theorem parsedUnasked {origin : Option Origin} {href : String} {url : Url} (unasked : '?' ∉ href.toList)
    (parsed : Url.parse origin href = .ok url) : url.queryPairs = [] := by
  have trimmed : ∀ c ∈ trim href.toList, c ∈ href.toList := fun c member =>
    (List.dropWhile_suffix _).subset
      (List.mem_reverse.mp ((List.dropWhile_suffix _).subset (List.mem_reverse.mp member)))
  have front := Form.splitFirstFront '#' (trim href.toList)
  have unfound : '?' ∉ (trim href.toList).takeWhile (· != '#') := fun member =>
    unasked (trimmed '?' ((List.takeWhile_prefix _).subset member))
  unfold Url.parse at parsed
  simp only [front, Form.splitFirstWhole unfound, Option.map_none] at parsed
  split at parsed
  · contradiction
  · cases parsed
    rfl

end CloudClient.Url

namespace CloudClient.Href

open CloudClient.Url

inductive Base : List Char → Prop
  | path {rest} (rooted : ∀ c, rest.head? = some c → c ≠ '/' ∧ c ≠ '\\')
      (plain : ∀ c ∈ rest, c ≠ '?' ∧ c ≠ '#' ∧ ¬ isBreak c) : Base ('/' :: rest)
  | url {scheme rest} (web : Web scheme) (plain : ∀ c ∈ rest, 0x20 < c.toNat ∧ c ≠ '?' ∧ c ≠ '#')
      (valid : (Url.parse none (String.ofList (scheme ++ "://".toList ++ rest))).isOk) :
      Base (scheme ++ "://".toList ++ rest)

theorem Base.plain {base : List Char} (front : Base base) :
    (∀ c, base.head? = some c → 0x20 < c.toNat) ∧ ∀ c ∈ base, c ≠ '?' ∧ c ≠ '#' := by
  cases front with
  | path _ plain =>
    refine ⟨fun c is => ?_, List.forall_mem_cons.mpr ⟨by decide, fun c member => ?_⟩⟩
    · cases Option.some.inj is
      decide
    · exact ⟨(plain c member).1, (plain c member).2.1⟩
  | url web plain =>
    have all := web.plain plain
    exact ⟨fun c is => (all c (List.mem_of_head? is)).1, fun c member => (all c member).2⟩

theorem validRead {scheme rest : List Char} (web : Web scheme)
    (plain : ∀ c ∈ rest, 0x20 < c.toNat ∧ c ≠ '?' ∧ c ≠ '#')
    (valid : (Url.parse none (String.ofList (scheme ++ "://".toList ++ rest))).isOk) :
    ∃ parts,
      readHierarchy (scheme.map Char.toLower) (("//".toList ++ rest).dropWhile (isSlash true)) true = .ok parts ∧
      ∀ tail, readParts (some origin) (scheme ++ "://".toList ++ rest) tail = .ok parts := by
  have all := web.plain plain
  have trimmed : trim (scheme ++ "://".toList ++ rest) = scheme ++ "://".toList ++ rest :=
    trimNothing (fun c is => (all c (List.mem_of_head? is)).1) fun c is => (all c (List.mem_of_getLast? is)).1
  have whole := Form.splitFirstWhole fun member => (all '#' member).2.2 rfl
  have bare := Form.splitFirstWhole fun member => (all '?' member).2.1 rfl
  unfold Url.parse at valid
  simp only [String.toList_ofList, trimmed, whole, bare, web.read plain] at valid
  cases read : readHierarchy (scheme.map Char.toLower) (("//".toList ++ rest).dropWhile (isSlash true)) true with
  | error e =>
    rw [read] at valid
    contradiction
  | ok parts => exact ⟨parts, rfl, fun tail => (web.read plain _ tail).trans read⟩

theorem Base.read {base : List Char} (front : Base base) :
    ∃ parts, readParts (some origin) base true = .ok parts := by
  cases front with
  | path rooted plain =>
    have special : isSpecial origin.scheme := by decide
    exact ⟨_, readRooted (fun c is => noSlash (rooted c is)) (fun c member => (plain c member).2.2) special⟩
  | url web plain valid =>
    obtain ⟨parts, _, read⟩ := validRead web plain valid
    exact ⟨parts, read true⟩

theorem queryParamBehind {base : List Char} (front : Base base) (pairs : List (String × String)) (name : String) :
    queryParam (String.ofList (base ++ '?' :: Form.encode pairs)) name =
      .ok ((Form.firstValue name pairs).filter (· != "")) := by
  obtain ⟨parts, read⟩ := front.read
  obtain ⟨url, parsed, _, own⟩ := parsedQuery (encodedUnmarked pairs) front.plain.1 front.plain.2 read
  simp only [queryParam, parse, parsed, Except.mapError, Except.map, own, Form.readPairs]

end CloudClient.Href
