/-! Sets of characters as lists of ranges, blank characters, and natural numbers of 64 bits in decimal,
as markers and headers carry them. -/
namespace CloudClient.Text

/-- Whether a character lies in one of the ranges, given by first and last code points. -/
def inRanges (ranges : List (Nat × Nat)) (c : Char) : Bool :=
  ranges.any fun range => range.1 ≤ c.toNat && c.toNat ≤ range.2

def lookUpRange {α : Type} (table : List (Nat × Nat × α)) (c : Char) : Option α :=
  (table.find? fun run => run.1 ≤ c.toNat && c.toNat ≤ run.2.1).map (·.2.2)

def isBlank (c : Char) : Bool :=
  let n := c.toNat
  (0x09 ≤ n && n ≤ 0x0D) || n == 0x20 || n == 0x85 || n == 0xA0 || n == 0x1680 ||
  (0x2000 ≤ n && n ≤ 0x200A) || n == 0x2028 || n == 0x2029 || n == 0x202F || n == 0x205F ||
  n == 0x3000

def allBlank (s : String) : Bool := s.toList.all isBlank

def nonEmpty? (s : String) : Option String := if s.isEmpty then none else some s

def digitsValue? (digits : List Char) : Option Nat :=
  digits.foldl (fun n c =>
    n.bind fun n => if '0' ≤ c ∧ c ≤ '9' then some (n * 10 + (c.toNat - '0'.toNat)) else none) (some 0)

def unsigned : List Char → List Char
  | '+' :: rest => rest
  | digits => digits

def nat64? (s : String) : Option Nat :=
  let digits := unsigned s.toList
  if digits.isEmpty then none
  else (digitsValue? digits).bind fun n => if n < UInt64.size then some n else none

end CloudClient.Text
