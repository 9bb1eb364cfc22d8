import CloudClient.Page.Codec
import CloudClient.Proofs.Href
import CloudClient.Proofs.Json.Path
/-! What the codec of a collection reads from a body: the items under the name of the collection, and the
marker in the first link to a next page. -/
namespace CloudClient.Json

theorem groundBlank {c : Char} (blank : Text.isBlank c) :
    Mode.ofGround c = ([], some .ground) ∨ Mode.ofGround c = Mode.broken := by
  have other : ¬ isDigit c := by
    intro digit
    simp only [isDigit, Bool.and_eq_true, decide_eq_true_eq, Char.le_def, UInt32.le_iff_toNat_le] at digit
    have least : 48 ≤ c.toNat := digit.1
    have greatest : c.toNat ≤ 57 := digit.2
    simp only [Text.isBlank, Bool.or_eq_true, Bool.and_eq_true, decide_eq_true_eq, beq_iff_eq] at blank
    omega
  unfold Mode.ofGround
  by_cases space : isSpace c
  · exact .inl (if_pos space)
  · rw [if_neg space, if_neg other]
    split <;> first | exact .inr rfl | exact absurd blank (by decide)

theorem tokensBlank {s : List Char} (blank : ∀ c ∈ s, Text.isBlank c) :
    tokensFrom .ground s = [] ∨ tokensFrom .ground s = [.fault] := by
  induction s with
  | nil => exact .inl rfl
  | cons c s ih =>
    obtain ⟨first, rest⟩ := List.forall_mem_cons.mp blank
    rcases groundBlank first with goes | stops
    · simpa [tokensFrom, Mode.step, goes] using ih rest
    · simp [tokensFrom, Mode.step, stops, Mode.broken]

theorem blankTree {body : String} (blank : Text.allBlank body) : Tree.ofText body = (.missing, false) := by
  rcases tokensBlank (List.all_eq_true.mp blank) with none | fault
  · rw [Tree.ofText, tokens, none]
    rfl
  · rw [Tree.ofText, tokens, fault]
    rfl

theorem parsedNotBlank {body : String} {v : Json} (parsed : parse body = some v) : ¬ Text.allBlank body := by
  intro blank
  rw [parse, blankTree blank] at parsed
  contradiction

theorem decodedNotBlank {α : Type} {d : Decoder α} {body : String} {a : α} (decoded : d.decodeText body = .ok a) :
    ¬ Text.allBlank body := by
  intro blank
  simp only [Decoder.decodeText, blankTree blank] at decoded
  split at decoded <;> contradiction

end CloudClient.Json

namespace CloudClient.Page.Codec

open CloudClient.Url (Form.encode Form.firstValue)

def nextLink? (links : List Json) : Option Json :=
  links.find? fun link => (link.get? "rel").bind Json.asString? == some "next"

inductive Next (links : List Json) : Option String → Prop
  | none (absent : nextLink? links = none) : Next links none
  | some {link base pairs id} (first : nextLink? links = some link) (front : Href.Base base)
      (href : link.get? "href" = some (.string (String.ofList (base ++ '?' :: Form.encode pairs))))
      (marks : Form.firstValue "marker" pairs = some id) : Next links (some id)

inductive Body (name text : String) (items : List Json) (next : Option String) : Prop
  | mk {v links} (parsed : Json.parse text = some v) (listed : v.get? name = some (.array items))
      (linked : v.get? (name ++ "_links") = some (.array links)) (following : Next links next)

variable {name text : String} {items links : List Json} {next : Option String}

theorem linkedText (following : Next links next) (given : next ≠ some "") {v : Json} {path : String}
    (linked : v.lookup path = some (.array links)) : extractText (.nextLink path) v = .ok next := by
  simp only [MarkerSource.nextLink, extractText, linked, findLink]
  cases following with
  | none absent =>
    have absent : (links.find? fun link => (link.get? "rel").bind Json.asString? == some "next") = none := absent
    simp only [absent]
  | @some link base pairs id first front href marks =>
    have first : (links.find? fun link => (link.get? "rel").bind Json.asString? == some "next") = some link := first
    have own : id ≠ "" := fun same => given (congrArg some same)
    simp only [first, href, Option.bind_some, Json.asString?, Href.queryParamBehind front, marks, Option.filter_some,
      bne_iff_ne, if_pos own]
    rfl

theorem linksLookup (undotted : '.' ∉ name.toList) (v : Json) :
    v.lookup (name ++ "_links") = v.get? (name ++ "_links") := by
  have letters : (name ++ "_links").toList = name.toList ++ "_links".toList := String.toList_append
  have long : 6 ≤ (name ++ "_links").toList.length := by
    rw [letters, List.length_append]
    exact Nat.le_add_left _ _
  refine Json.lookupWhole ?_ ?_ ?_ v
  · intro empty
    rw [empty] at long
    exact absurd long (by decide)
  · rw [letters, List.mem_append]
    exact not_or.mpr ⟨undotted, by decide⟩
  · intro root
    rw [root] at long
    exact absurd long (by decide)

theorem decodedCollection (named : name ≠ "") (undotted : '.' ∉ name.toList) (other : name ≠ "$")
    (body : Body name text items next) (given : next ≠ some "") :
    (collection name).decode text = .ok ⟨items, next.map Marker.mk⟩ := by
  obtain ⟨parsed, listed, linked, following⟩ := body
  rename_i v links
  have full : ¬ Text.allBlank text := Json.parsedNotBlank parsed
  have found : v.lookup name = some (.array items) := (Json.lookupWhole named undotted other v).trans listed
  have marked := linkedText following given ((linksLookup undotted v).trans linked)
  have kept : next.bind Text.nonEmpty? = next := by
    cases next with
    | none => rfl
    | some id =>
      have own : id.isEmpty = false := by
        simpa using fun same => given (congrArg some same)
      simp only [Option.bind_some, Text.nonEmpty?, own]
      rfl
  simp only [decode, if_neg full, parsed, ofValue, extractItems, collection, found, extractMarker, marked,
    Except.map, kept]

end CloudClient.Page.Codec
