/-! Punycode: labels whose characters beyond ASCII are written as differences of code points and
positions. `decode` reads the part of a label after `xn--`, one digit at a time. -/
namespace CloudClient.Url.Punycode

def digit? (c : Char) : Option Nat :=
  let n := c.toNat
  if 97 ≤ n ∧ n ≤ 122 then some (n - 97)
  else if 65 ≤ n ∧ n ≤ 90 then some (n - 65)
  else if 48 ≤ n ∧ n ≤ 57 then some (n - 48 + 26)
  else none

def threshold (k bias : Nat) : Nat :=
  if k ≤ bias then 1 else if bias + 26 ≤ k then 26 else k - bias

def shrink (delta k : Nat) : Nat × Nat :=
  if 455 < delta then shrink (delta / 35) (k + 36) else (delta, k)
termination_by delta
decreasing_by exact Nat.div_lt_self (by omega) (by omega)

def adapt (delta count : Nat) (first : Bool) : Nat :=
  let halved := if first then delta / 700 else delta / 2
  let (rest, k) := shrink (halved + halved / count) 0
  k + 36 * rest / (rest + 38)

/-- What has been read: the characters, the last code point and position, the bias, and the number
that is being read with the weight and place of its next digit. -/
structure State where
  out : List Char
  code : Nat
  position : Nat
  bias : Nat
  start : Nat
  weight : Nat
  place : Nat

def isScalar (n : Nat) : Bool := 0x80 ≤ n && n < 0x110000 && !(0xD800 ≤ n && n < 0xE000)

def insert (s : State) (position : Nat) : Option State :=
  let count := s.out.length + 1
  let code := s.code + position / count
  let place := position % count
  if isScalar code then
    some { out := s.out.take place ++ Char.ofNat code :: s.out.drop place, code, position := place + 1,
           bias := adapt (position - s.start) count (s.start == 0), start := place + 1, weight := 1,
           place := 36 }
  else none

def step (s : State) (c : Char) : Option State :=
  match digit? c with
  | none => none
  | some d =>
    let position := s.position + d * s.weight
    let t := threshold s.place s.bias
    if UInt32.size ≤ position || UInt32.size ≤ s.weight then none
    else if d < t then insert s position
    else some { s with position, weight := s.weight * (36 - t), place := s.place + 36 }

def steps (s : State) : List Char → Option State
  | [] => if s.weight = 1 ∧ s.place = 36 then some s else none
  | c :: rest => (step s c).bind fun s => steps s rest

def split? (s : List Char) : Option (List Char × List Char) :=
  let digits := (s.reverse.takeWhile (· != '-')).reverse
  let plain := s.take (s.length - digits.length - 1)
  if digits.isEmpty || (plain.isEmpty && digits.length < s.length) then none else some (plain, digits)

def decode (s : List Char) : Option (List Char) :=
  match split? s with
  | none => none
  | some (plain, digits) =>
    if plain.any (0x80 ≤ ·.toNat) then none
    else (steps ⟨plain, 0x80, 0, 72, 0, 1, 36⟩ digits).map (·.out)

end CloudClient.Url.Punycode
