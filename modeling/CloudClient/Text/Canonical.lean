import CloudClient.Text.CombiningClass
import CloudClient.Text.Composite
/-! The canonical form of a text: composites are taken apart, marks are put in the order of their
classes, and parts that fit together are composed again. Texts that differ only in the order of marks
or in composites have one canonical form. -/
namespace CloudClient.Text

/-- A syllable in two parts: its trailing consonant and the rest, or its consonant and its vowel. There
are 21 vowels, and 28 endings of a syllable, the first of which is no consonant. -/
def syllableParts? (c : Char) : Option (Char × Char) :=
  let n := c.toNat - 0xAC00
  if c.toNat < 0xAC00 || 0xD7A3 < c.toNat then none
  else if n % 28 == 0 then
    some (Char.ofNat (0x1100 + n / 588), Char.ofNat (0x1161 + n % 588 / 28))
  else some (Char.ofNat (0xAC00 + n / 28 * 28), Char.ofNat (0x11A7 + n % 28))

def syllable? (a b : Char) : Option Char :=
  let m := a.toNat
  let n := b.toNat
  if 0x1100 ≤ m && m < 0x1113 && 0x1161 ≤ n && n < 0x1176 then
    some (Char.ofNat (0xAC00 + (m - 0x1100) * 588 + (n - 0x1161) * 28))
  else if 0xAC00 ≤ m && m ≤ 0xD7A3 && (m - 0xAC00) % 28 == 0 && 0x11A7 < n && n < 0x11C3 then
    some (Char.ofNat (m + (n - 0x11A7)))
  else none

def parts? (c : Char) : Option (Char × Char) :=
  if c.toNat < 0xC0 then none
  else match syllableParts? c with
    | some parts => some parts
    | none => (composites.find? (·.1 == c.toNat)).map fun entry =>
        (Char.ofNat entry.2.1, Char.ofNat entry.2.2)

def composite? (a b : Char) : Option Char :=
  if b.toNat < 0x300 then none
  else match syllable? a b with
    | some c => some c
    | none => (composites.find? (·.2 == (a.toNat, b.toNat))).map fun entry => Char.ofNat entry.1

def decompose (depth : Nat) (c : Char) : List Char :=
  match depth with
  | 0 => [c]
  | depth + 1 =>
    match parts? c with
    | some (a, b) => decompose depth a ++ [b]
    | none => [c]

def insertMark (m : Char × Nat) : List (Char × Nat) → List (Char × Nat)
  | [] => [m]
  | d :: rest => if 0 < d.2 && d.2 < m.2 then d :: insertMark m rest else m :: d :: rest

def orderMarks (s : List Char) : List (Char × Nat) :=
  (s.map fun c => (c, combiningClass c)).foldr insertMark []

/-- Composes a character with what follows it. `held` holds the marks that stay, the last one first;
a mark behind one of its own class, and a letter behind a mark, do not reach the character. -/
def composeFrom (c : Char) (held : List (Char × Nat)) : List (Char × Nat) → List Char
  | [] => c :: (held.map (·.1)).reverse
  | m :: rest =>
    let blocked := held.head?.any fun last => m.2 ≤ last.2
    match if blocked then none else composite? c m.1 with
    | some d => composeFrom d held rest
    | none =>
      if m.2 == 0 then c :: (held.map (·.1)).reverse ++ composeFrom m.1 [] rest
      else composeFrom c (m :: held) rest

def canonical (s : List Char) : List Char :=
  match orderMarks (s.flatMap (decompose 3)) with
  | [] => []
  | first :: rest => composeFrom first.1 [] rest

end CloudClient.Text
