import CloudClient.Url.Form
import CloudClient.Proofs.Text.Utf8
import Mathlib.Data.List.TakeWhile
/-! Pairs that are written into a query are read back from it. An encoded text is made of few characters:
none of them separates pairs, and none means anything to a URL. -/
namespace CloudClient.Url.Form

open CloudClient.Text

theorem hexDigitRead {d : Nat} (small : d < 16) :
    hexValue? (hexDigit d).toNat = some d ∧ (hexDigit d).toNat < 0x80 ∧ isPlain (hexDigit d).toNat := by
  have all : ∀ d < 16, hexValue? (hexDigit d).toNat = some d ∧ (hexDigit d).toNat < 0x80 ∧
      isPlain (hexDigit d).toNat := by
    decide
  exact all d small

theorem percentDecodeOther {n : Nat} (other : n ≠ 0x25) (rest : List Nat) :
    percentDecode (n :: rest) = n :: percentDecode rest := by
  rw [percentDecode]
  exact fun _ _ _ same _ => other same

theorem percentDecodeOctet {n a b : Nat} (rest : List Nat) (high : hexValue? a = some (n / 16))
    (low : hexValue? b = some (n % 16)) : percentDecode (0x25 :: a :: b :: rest) = n :: percentDecode rest := by
  rw [percentDecode, high, low]
  simp only [Nat.div_add_mod']

theorem plainRange {n : Nat} (plain : isPlain n) :
    (48 ≤ n ∧ n ≤ 57) ∨ (65 ≤ n ∧ n ≤ 90) ∨ (97 ≤ n ∧ n ≤ 122) ∨ n = 42 ∨ n = 45 ∨ n = 46 ∨ n = 95 := by
  simpa [isPlain, or_assoc] using plain

theorem plainChar {n : Nat} (plain : isPlain n) : (Char.ofNat n).toNat = n := by
  have range := plainRange plain
  rw [Char.ofNat, dif_pos (.inl (by omega))]
  rfl

theorem plainOther {c d : Char} (plain : isPlain c.toNat) (other : ¬ isPlain d.toNat) : c ≠ d := by
  rintro rfl
  exact other plain

def unplus (c : Char) : Char := if c = '+' then ' ' else c

theorem unplusPlain {c : Char} (plain : isPlain c.toNat) : unplus c = c :=
  if_neg (plainOther plain (by decide))

theorem readOctet {n : Nat} (small : n < 0x100) (rest : List Char) :
    percentDecode (Utf8.encode ((encodeOctet n).map unplus ++ rest)) = n :: percentDecode (Utf8.encode rest) := by
  unfold encodeOctet
  by_cases plain : isPlain n
  · have same := plainChar plain
    have range := plainRange plain
    have stays : unplus (Char.ofNat n) = Char.ofNat n := unplusPlain (same.symm ▸ plain)
    rw [if_pos plain, List.map_singleton, stays, List.singleton_append, Utf8.encodeAscii (by omega), same]
    exact percentDecodeOther (by omega) _
  by_cases blank : n = 0x20
  · subst blank
    rw [if_neg plain, if_pos rfl]
    exact percentDecodeOther (by decide) _
  · obtain ⟨high, highAscii, highPlain⟩ := hexDigitRead (d := n / 16) (by omega)
    obtain ⟨low, lowAscii, lowPlain⟩ := hexDigitRead (d := n % 16) (by omega)
    have sign : ('%').toNat = 0x25 := rfl
    rw [if_neg plain, if_neg blank, percentOctet, List.map_cons, List.map_cons, List.map_singleton,
      unplusPlain highPlain, unplusPlain lowPlain, show unplus '%' = '%' from rfl, List.cons_append,
      List.cons_append, List.singleton_append, Utf8.encodeAscii (by decide), Utf8.encodeAscii highAscii,
      Utf8.encodeAscii lowAscii, sign]
    exact percentDecodeOctet _ high low

theorem readOctets {octets : List Nat} (small : ∀ n ∈ octets, n < 0x100) :
    percentDecode (Utf8.encode ((octets.flatMap encodeOctet).map unplus)) = octets := by
  induction octets with
  | nil => rfl
  | cons n octets ih =>
    obtain ⟨first, rest⟩ := List.forall_mem_cons.mp small
    rw [List.flatMap_cons, List.map_append, readOctet first, ih rest]

theorem readText (s : List Char) : decodeText (encodeText s) = String.ofList s := by
  have octets : percentDecode (Utf8.encode ((encodeText s).map unplus)) = Utf8.encode s :=
    readOctets fun _ member => Utf8.octetOfText member
  exact congrArg String.ofList ((congrArg Utf8.decode octets).trans (Utf8.decodeEncoded s))

def isWritten (c : Char) : Bool := isPlain c.toNat || c == '+' || c == '%'

theorem octetWritten {n : Nat} (small : n < 0x100) : ∀ c ∈ encodeOctet n, isWritten c := by
  have digit {d : Nat} (small : d < 16) : isWritten (hexDigit d) := by
    simp [isWritten, (hexDigitRead small).2.2]
  intro c member
  unfold encodeOctet at member
  split at member
  · rename_i plain
    rw [List.mem_singleton.mp member, isWritten, plainChar plain, plain]
    rfl
  · split at member
    · cases List.mem_singleton.mp member
      rfl
    · simp only [percentOctet, List.mem_cons, List.not_mem_nil, or_false] at member
      rcases member with rfl | rfl | rfl
      · rfl
      · exact digit (by omega)
      · exact digit (by omega)

theorem textWritten {s : List Char} : ∀ c ∈ encodeText s, isWritten c := by
  intro c member
  obtain ⟨n, octet, inside⟩ := List.mem_flatMap.mp member
  exact octetWritten (Utf8.octetOfText octet) c inside

theorem pairWritten {pair : String × String} : ∀ c ∈ encodePair pair, isWritten c ∨ c = '=' := by
  intro c member
  rcases List.mem_append.mp member with key | value
  · exact .inl (textWritten c key)
  · rcases List.mem_cons.mp value with rfl | value
    · exact .inr rfl
    · exact .inl (textWritten c value)

theorem queryWritten {pairs : List (String × String)} :
    ∀ c ∈ encode pairs, isWritten c ∨ c = '=' ∨ c = '&' := by
  have pair {p : String × String} {c : Char} (member : c ∈ encodePair p) : isWritten c ∨ c = '=' ∨ c = '&' :=
    (pairWritten c member).imp_right .inl
  induction pairs with
  | nil => exact fun _ member => by cases member
  | cons p rest ih =>
    intro c member
    cases rest with
    | nil => exact pair member
    | cons q rest =>
      rcases List.mem_append.mp member with first | later
      · exact pair first
      · rcases List.mem_cons.mp later with rfl | later
        · exact .inr (.inr rfl)
        · exact ih c later

theorem splitNext {separator : Char} {part : List Char} (absent : separator ∉ part) (rest : List Char) :
    splitOn separator (part ++ separator :: rest) = part :: splitOn separator rest := by
  induction part with
  | nil => exact if_pos rfl
  | cons c part ih =>
    rw [List.cons_append, splitOn, if_neg (List.ne_of_not_mem_cons absent).symm,
      ih (List.not_mem_of_not_mem_cons absent)]

theorem splitWhole {separator : Char} {part : List Char} (absent : separator ∉ part) :
    splitOn separator part = [part] := by
  induction part with
  | nil => rfl
  | cons c part ih =>
    rw [splitOn, if_neg (List.ne_of_not_mem_cons absent).symm, ih (List.not_mem_of_not_mem_cons absent)]

theorem splitFirstNext {separator : Char} {part : List Char} (absent : separator ∉ part) (rest : List Char) :
    splitFirst separator (part ++ separator :: rest) = (part, some rest) := by
  have others : ∀ c ∈ part, (c != separator) = true := fun c member =>
    bne_iff_ne.mpr fun same => absent (same ▸ member)
  have stops : (separator != separator) = false := bne_self_eq_false separator
  simp only [splitFirst, List.dropWhile_append_of_pos others, List.takeWhile_append_of_pos others,
    List.dropWhile_cons, List.takeWhile_cons, stops, if_false, List.append_nil, Bool.false_eq_true]

theorem splitFirstWhole {separator : Char} {part : List Char} (absent : separator ∉ part) :
    splitFirst separator part = (part, none) := by
  have others : ∀ c ∈ part, (c != separator) = true := fun c member =>
    bne_iff_ne.mpr fun same => absent (same ▸ member)
  simp only [splitFirst, List.dropWhile_eq_nil_iff.mpr others, List.takeWhile_eq_self_iff.mpr others]

theorem splitFirstFront (separator : Char) (s : List Char) :
    (splitFirst separator s).1 = s.takeWhile (· != separator) := by
  unfold splitFirst
  split <;> rfl

theorem readPair (pair : String × String) : decodePair (encodePair pair) = pair := by
  have absent : '=' ∉ encodeText pair.1.toList := fun member => absurd (textWritten _ member) (by decide)
  rw [decodePair, encodePair, splitFirstNext absent]
  simp only [Option.getD_some, readText, String.ofList_toList]

theorem readPairs (pairs : List (String × String)) : decode (encode pairs) = pairs := by
  have absent (pair : String × String) : '&' ∉ encodePair pair := fun member =>
    absurd (pairWritten _ member) (by decide)
  have written (pair : String × String) : encodePair pair ≠ [] := by
    simp [encodePair]
  unfold decode
  induction pairs with
  | nil => rfl
  | cons pair rest ih =>
    have kept (parts : List (List Char)) :
        ((encodePair pair :: parts).filter (· != [])).map decodePair =
          pair :: (parts.filter (· != [])).map decodePair := by
      rw [List.filter_cons_of_pos (by simpa using written pair), List.map_cons, readPair]
    cases rest with
    | nil =>
      rw [encode, splitWhole (absent pair), kept]
      rfl
    | cons next rest =>
      rw [encode, splitNext (absent pair), kept, ih]
      exact List.cons_ne_nil _ _

end CloudClient.Url.Form
