import CloudClient.Proofs.Resource
/-! A parameter of an href. It is found under every form in which the href may be written, from the root, from
where the reader is or with the origin in front, and a fragment at the end changes nothing. -/
namespace CloudClient

namespace Url

variable {base query path : List Char} {origin : Option Origin} {parts : Parts}

theorem trimFragment {s : List Char} (first : ∀ c, s.head? = some c → 0x20 < c.toNat) (fragment : List Char) :
    ∃ rest, trim (s ++ '#' :: fragment) = s ++ '#' :: rest := by
  let outer (c : Char) : Bool := decide (c.toNat ≤ 0x20)
  have front : (s ++ '#' :: fragment).dropWhile outer = s ++ '#' :: fragment := by
    refine dropNothing fun c is => ?_
    cases s with
    | nil =>
      cases Option.some.inj is
      decide
    | cons d s => simpa [outer] using first c is
  have mark : ('#' :: s.reverse).dropWhile outer = '#' :: s.reverse := List.dropWhile_cons_of_neg (by decide)
  have back : (s ++ '#' :: fragment).reverse.dropWhile outer =
      fragment.reverse.dropWhile outer ++ '#' :: s.reverse := by
    rw [List.reverse_append, List.reverse_cons, List.append_assoc, List.singleton_append, List.dropWhile_append, mark]
    split
    · rename_i none
      rw [List.isEmpty_iff.mp none, List.nil_append]
    · rfl
  refine ⟨(fragment.reverse.dropWhile outer).reverse, ?_⟩
  have trimmed : trim (s ++ '#' :: fragment) =
      (((s ++ '#' :: fragment).dropWhile outer).reverse.dropWhile outer).reverse := rfl
  rw [trimmed, front, back]
  simp

theorem parsedFragment (unmarked : ∀ c ∈ query, Unmarked c) (first : ∀ c, base.head? = some c → 0x20 < c.toNat)
    (plain : ∀ c ∈ base, c ≠ '?' ∧ c ≠ '#') (read : readParts origin base true = .ok parts) (fragment : List Char) :
    ∃ url, Url.parse origin (String.ofList (base ++ '?' :: query ++ '#' :: fragment)) = .ok url ∧
      url.queryPairs = Form.decode query := by
  have start : ∀ c, (base ++ '?' :: query).head? = some c → 0x20 < c.toNat := by
    intro c is
    cases base with
    | nil =>
      cases Option.some.inj is
      decide
    | cons d base => exact first c is
  obtain ⟨rest, trimmed⟩ := trimFragment start fragment
  have front := Form.splitFirstNext (queriedWhole unmarked plain) rest
  obtain ⟨_, cut⟩ := splitQueried unmarked plain
  unfold Url.parse
  simp only [String.toList_ofList, trimmed, front, cut, Option.isSome_some, Bool.true_or, read]
  refine ⟨_, rfl, ?_⟩
  simp only [Url.queryPairs, Option.map_some, Function.comp_apply, Option.getD_some, queryKept unmarked]

theorem unhosted {scheme : List Char} (special : isSpecial scheme) (tail : Bool) :
    readHierarchy scheme [] tail = .error .emptyHost := by
  simp [readHierarchy, readAuthority, splitCredentials, splitHost, special]

theorem hierarchyBelow {scheme authority : List Char} (special : isSpecial scheme)
    (unslashed : ∀ c ∈ authority, ¬ isSlash true c) (read : readHierarchy scheme authority true = .ok parts)
    (path : List Char) : ∃ parts, readHierarchy scheme (authority ++ '/' :: path) true = .ok parts := by
  have inside : ∀ c ∈ authority, (!isSlash (isSpecial scheme) c) = true := fun c member => by
    simpa [special] using unslashed c member
  have alone : authority.takeWhile (!isSlash (isSpecial scheme) ·) = authority := List.takeWhile_eq_self_iff.mpr inside
  have front : (authority ++ '/' :: path).takeWhile (!isSlash (isSpecial scheme) ·) = authority := by
    have stops : ('/' :: path).takeWhile (!isSlash (isSpecial scheme) ·) = [] := rfl
    rw [List.takeWhile_append_of_pos inside, stops, List.append_nil]
  unfold readHierarchy at read ⊢
  simp only [alone, front, Bool.true_or] at read ⊢
  cases host : readAuthority scheme authority true with
  | error e =>
    rw [host] at read
    contradiction
  | ok found => exact ⟨_, rfl⟩

end Url

namespace Href

open Url

inductive Written (path : List Char) : List Char → Prop
  | rooted : Written path ('/' :: path)
  | relative (unnamed : ':' ∉ path.takeWhile (· != '/')) : Written path path
  | hosted {scheme authority} (web : Web scheme)
      (plain : ∀ c ∈ authority, 0x20 < c.toNat ∧ c ∉ ['/', '\\', '?', '#'])
      (valid : (Url.parse none (String.ofList (scheme ++ "://".toList ++ authority))).isOk) :
      Written path (scheme ++ "://".toList ++ (authority ++ '/' :: path))

structure Plain (segment : List Char) : Prop where
  some : segment ≠ []
  plain : ∀ c ∈ segment, 0x20 < c.toNat ∧ c ∉ ['/', '\\', '?', '#']

def pathOf (segments : List (List Char)) : List Char := ['/'].intercalate segments

structure Below (path : List Char) : Prop where
  first : ∀ c, path.head? = some c → ¬ isSlash true c
  plain : ∀ c ∈ path, 0x20 < c.toNat ∧ c ≠ '?' ∧ c ≠ '#'

variable {path base : List Char} {segments : List (List Char)}

theorem plainChar {c : Char} (plain : 0x20 < c.toNat ∧ c ∉ ['/', '\\', '?', '#']) :
    ¬ isSlash true c ∧ 0x20 < c.toNat ∧ c ≠ '?' ∧ c ≠ '#' := by
  simp only [List.mem_cons, List.not_mem_nil, or_false, not_or] at plain
  exact ⟨noSlash ⟨plain.2.1, plain.2.2.1⟩, plain.1, plain.2.2.2⟩

theorem pathBelow (plain : ∀ s ∈ segments, Plain s) : Below (pathOf segments) := by
  induction segments with
  | nil => exact ⟨nofun, nofun⟩
  | cons s rest ih =>
    obtain ⟨own, others⟩ := List.forall_mem_cons.mp plain
    obtain ⟨d, tail, rfl⟩ := List.exists_cons_of_ne_nil own.some
    have first := (plainChar (own.plain d List.mem_cons_self)).1
    have inside : ∀ c ∈ d :: tail, 0x20 < c.toNat ∧ c ≠ '?' ∧ c ≠ '#' := fun c member =>
      (plainChar (own.plain c member)).2
    cases rest with
    | nil =>
      rw [pathOf, List.intercalate_singleton]
      exact ⟨fun c is => Option.some.inj is ▸ first, inside⟩
    | cons next rest =>
      have joined : pathOf ((d :: tail) :: next :: rest) = (d :: tail) ++ '/' :: pathOf (next :: rest) := by
        rw [pathOf, List.intercalate_cons_cons, List.append_assoc]
        rfl
      rw [joined]
      refine ⟨fun c is => Option.some.inj is ▸ first, ?_⟩
      exact List.forall_mem_append.mpr ⟨inside, List.forall_mem_cons.mpr ⟨by decide, (ih others).plain⟩⟩

theorem Below.hosted {authority : List Char} (below : Below path)
    (plain : ∀ c ∈ authority, 0x20 < c.toNat ∧ c ∉ ['/', '\\', '?', '#']) :
    ∀ c ∈ authority ++ '/' :: path, 0x20 < c.toNat ∧ c ≠ '?' ∧ c ≠ '#' :=
  List.forall_mem_append.mpr
    ⟨fun c member => (plainChar (plain c member)).2, List.forall_mem_cons.mpr ⟨by decide, below.plain⟩⟩

theorem Written.plain (below : Below path) (written : Written path base) :
    (∀ c, base.head? = some c → 0x20 < c.toNat) ∧ ∀ c ∈ base, c ≠ '?' ∧ c ≠ '#' := by
  have all : ∀ c ∈ base, 0x20 < c.toNat ∧ c ≠ '?' ∧ c ≠ '#' := by
    cases written with
    | rooted => exact List.forall_mem_cons.mpr ⟨by decide, below.plain⟩
    | relative => exact below.plain
    | hosted web plain => exact web.plain (below.hosted plain)
  exact ⟨fun c is => (all c (List.mem_of_head? is)).1, fun c member => (all c member).2⟩

theorem Written.read (below : Below path) (written : Written path base) :
    ∃ parts, readParts (some origin) base true = .ok parts := by
  have special : isSpecial origin.scheme := by decide
  have joined : ∀ c ∈ path, ¬ isBreak c := fun c member => visibleJoined (below.plain c member).1
  cases written with
  | rooted => exact ⟨_, readRooted below.first joined special⟩
  | relative unnamed => exact ⟨_, readNear below.first unnamed joined special⟩
  | @hosted scheme authority web plain valid =>
    obtain ⟨parts, inner, _⟩ := validRead web (fun c member => (plainChar (plain c member)).2) valid
    rw [web.read (below.hosted plain)]
    cases authority with
    | nil =>
      have none : ("//".toList ++ []).dropWhile (isSlash true) = [] := by decide
      rw [none, unhosted web.special] at inner
      exact nomatch inner
    | cons d rest =>
      have unslashed := fun c member => (plainChar (plain c member)).1
      have slashes (s : List Char) : ("//".toList ++ (d :: s)).dropWhile (isSlash true) = d :: s :=
        List.dropWhile_cons_of_neg (unslashed d List.mem_cons_self)
      rw [slashes] at inner
      rw [List.cons_append, slashes]
      exact hierarchyBelow web.special unslashed inner path

theorem firstFound (pairs : List (String × String)) (name : String) :
    Form.firstValue name pairs = pairs.lookup name := by
  induction pairs with
  | nil => rfl
  | cons pair pairs ih =>
    unfold Form.firstValue at ih ⊢
    rw [List.find?_cons, List.lookup_cons, ← ih, BEq.comm]
    split
    · rfl
    · rfl

theorem firstGiven {href : String} {url : Url} {pairs : List (String × String)}
    (parsed : Url.parse (some origin) href = .ok url) (own : url.queryPairs = Form.decode (Form.encode pairs))
    (name : String) : queryParam href name = .ok ((pairs.lookup name).filter (· != "")) := by
  rw [queryParam, parsedIff.mpr parsed, Except.map, own, Form.readPairs, firstFound]

theorem parameterFound (plain : ∀ s ∈ segments, Plain s) (written : Written (pathOf segments) base)
    (pairs : List (String × String)) (name : String) :
    let answer := (pairs.lookup name).filter (· != "")
    queryParam (String.ofList (base ++ '?' :: Form.encode pairs)) name = .ok answer ∧
      ∀ fragment,
        queryParam (String.ofList (base ++ '?' :: Form.encode pairs ++ '#' :: fragment)) name = .ok answer := by
  intro answer
  have below := pathBelow plain
  obtain ⟨first, whole⟩ := written.plain below
  obtain ⟨parts, read⟩ := written.read below
  obtain ⟨url, parsed, _, own⟩ := parsedQuery (encodedUnmarked pairs) first whole read
  refine ⟨firstGiven parsed own name, fun fragment => ?_⟩
  obtain ⟨url, parsed, own⟩ := parsedFragment (encodedUnmarked pairs) first whole read fragment
  exact firstGiven parsed own name

theorem parameterFoundAtOrigin :
    let path := ["v1".toList, "ä,c:%".toList]
    let base := "Https".toList ++ "://".toList ++ ("cloud.example:8443".toList ++ '/' :: pathOf path)
    let pairs := [("m", ""), ("a&b=c", "1"), ("ü +", "%2F é&=#?"), ("ü +", "2")]
    let asked := base ++ '?' :: Form.encode pairs
    String.ofList asked = "Https://cloud.example:8443/v1/ä,c:%" ++
        "?m=&a%26b%3Dc=1&%C3%BC+%2B=%252F+%C3%A9%26%3D%23%3F&%C3%BC+%2B=2" ∧
      (∀ s ∈ path, Plain s) ∧ Written (pathOf path) base ∧
      queryParam (String.ofList asked) "ü +" = .ok (some "%2F é&=#?") ∧
      queryParam (String.ofList (asked ++ '#' :: " ?m=3#\t ".toList)) "m" = .ok none := by
  intro path base pairs asked
  have visible : ["v1".toList, "ä,c:%".toList, "cloud.example:8443".toList].all fun s => s ≠ [] ∧
      s.all fun c => 0x20 < c.toNat ∧ c ∉ ['/', '\\', '?', '#'] := by decide
  have each : ∀ s ∈ ["v1".toList, "ä,c:%".toList, "cloud.example:8443".toList], Plain s := by
    intro s member
    obtain ⟨some, plain⟩ := of_decide_eq_true (List.all_eq_true.mp visible s member)
    exact ⟨some, fun c inside => of_decide_eq_true (List.all_eq_true.mp plain c inside)⟩
  have plain : ∀ s ∈ path, Plain s := fun s member => each s (List.mem_append_left ["cloud.example:8443".toList] member)
  have web : Web "Https".toList := ⟨List.all_eq_true.mp rfl, .inr rfl⟩
  have written : Written (pathOf path) base := .hosted web (each _ (by simp)).plain (by decide +kernel)
  refine ⟨by decide +kernel, plain, written, (parameterFound plain written pairs "ü +").1, ?_⟩
  exact (parameterFound plain written pairs "m").2 " ?m=3#\t ".toList

end Href
end CloudClient
