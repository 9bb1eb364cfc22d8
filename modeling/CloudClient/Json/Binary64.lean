/-! Finite binary64 numbers in exact integer arithmetic: the nearest number to a quotient (ties to
the even mantissa), product and quotient rounded once, and the shortest decimal that reads back
as the same number. -/
namespace CloudClient.Json

/-- The number `± mantissa * 2 ^ exponent`. Numbers that the functions here build have a mantissa
below `2 ^ 53`, and one of at least `2 ^ 52` unless the exponent is the least, -1074. -/
structure Binary64 where
  negative : Bool
  mantissa : Nat
  exponent : Int
  deriving DecidableEq, Repr, Inhabited

namespace Binary64

def leastExponent : Int := -1074

def greatestExponent : Int := 971

def leastNormal : Nat := Nat.pow 2 52

/-- `x / y` rounded to the nearest natural number, a tie to the even one. -/
def roundDiv (x y : Nat) : Nat :=
  let q := x / y
  let r := x % y
  if 2 * r < y then q else if y < 2 * r then q + 1 else q + q % 2

def shifted (x y : Nat) (e : Int) : Nat × Nat :=
  if 0 ≤ e then (x, y * Nat.pow 2 e.toNat) else (x * Nat.pow 2 (-e).toNat, y)

def floorLog2 (x y : Nat) : Int :=
  let e : Int := (Nat.log2 x : Int) - Nat.log2 y
  let (p, q) := shifted x y e
  if q ≤ p then e else e - 1

def nearest (negative : Bool) (x y : Nat) : Option Binary64 :=
  if x = 0 then some ⟨negative, 0, leastExponent⟩
  else
    let e := max leastExponent (floorLog2 x y - 52)
    let (p, q) := shifted x y e
    let m := roundDiv p q
    let (m, e) := if m = 2 * leastNormal then (leastNormal, e + 1) else (m, e)
    if greatestExponent < e then none else some ⟨negative, m, e⟩

def ratio (x : Binary64) : Nat × Nat :=
  if 0 ≤ x.exponent then (x.mantissa * Nat.pow 2 x.exponent.toNat, 1)
  else (x.mantissa, Nat.pow 2 (-x.exponent).toNat)

def zero (negative : Bool) : Binary64 := ⟨negative, 0, leastExponent⟩

def isZero (x : Binary64) : Bool := x.mantissa == 0

def mul (x y : Binary64) : Option Binary64 :=
  nearest (x.negative != y.negative) (x.ratio.1 * y.ratio.1) (x.ratio.2 * y.ratio.2)

def div (x y : Binary64) : Option Binary64 :=
  nearest (x.negative != y.negative) (x.ratio.1 * y.ratio.2) (x.ratio.2 * y.ratio.1)

def floorLog10 (x y : Nat) : Int :=
  let k : Int := ((Nat.toDigits 10 x).length : Int) - (Nat.toDigits 10 y).length
  let reached := if 0 ≤ k then y * Nat.pow 10 k.toNat ≤ x else y ≤ x * Nat.pow 10 (-k).toNat
  if reached then k else k - 1

/-- The number and the ends of the interval of reals that round to it, as multiples of a quarter of
its last place. The ends belong to the interval exactly when the mantissa is even. -/
structure Rounding where
  low : Nat
  value : Nat
  high : Nat
  closed : Bool

def rounding (x : Binary64) : Rounding where
  low := 4 * x.mantissa - if x.mantissa = leastNormal ∧ x.exponent ≠ leastExponent then 1 else 2
  value := 4 * x.mantissa
  high := 4 * x.mantissa + 2
  closed := x.mantissa % 2 = 0

def onGrid (x : Binary64) (grid : Int) : Option Nat :=
  let r := x.rounding
  let (up, down) := if 0 ≤ grid then (Nat.pow 10 grid.toNat, 1) else (1, Nat.pow 10 (-grid).toNat)
  let (unit, scale) := shifted down up (2 - x.exponent)
  let inside (c : Nat) : Bool :=
    if r.closed then r.low * unit ≤ c * scale && c * scale ≤ r.high * unit
    else r.low * unit < c * scale && c * scale < r.high * unit
  let c := r.value * unit / scale
  let nearer := if 2 * (r.value * unit) < (2 * c + 1) * scale then c
    else if (2 * c + 1) * scale < 2 * (r.value * unit) then c + 1 else c + c % 2
  if inside c && inside (c + 1) then some nearer
  else if inside c then some c
  else if inside (c + 1) then some (c + 1)
  else none

/-- The fewest decimal digits that read back as `x`, which is not zero, and the power of ten that
their last one counts. Seventeen digits always suffice. -/
def shortest (x : Binary64) : Nat × Int :=
  let k := floorLog10 x.ratio.1 x.ratio.2
  let found := (List.range 17).findSome? fun (i : Nat) =>
    let grid := k - i
    (x.onGrid grid).map (·, grid)
  found.getD (x.mantissa, 0)

def scientific (x : Binary64) : List Char × Int :=
  let (digits, grid) := x.shortest
  let written := Nat.toDigits 10 digits
  let kept := (written.reverse.dropWhile (· == '0')).reverse
  (kept, grid + ((written.length : Int) - 1))

def positional (power : Int) : Bool := -5 ≤ power && power ≤ 15

def placePoint (digits : List Char) (power : Int) : List Char :=
  if power < 0 then
    '0' :: '.' :: List.replicate ((-power).toNat - 1) '0' ++ digits
  else
    let whole := power.toNat + 1
    if digits.length ≤ whole then
      digits ++ List.replicate (whole - digits.length) '0' ++ ['.', '0']
    else digits.take whole ++ '.' :: digits.drop whole

def placeExponent (digits : List Char) (power : Int) : List Char :=
  let mantissa := match digits with
    | d :: rest@(_ :: _) => d :: '.' :: rest
    | _ => digits
  let sign := if power < 0 then '-' else '+'
  mantissa ++ 'e' :: sign :: Nat.toDigits 10 power.natAbs

def text (x : Binary64) : String :=
  let size := if x.isZero then ['0', '.', '0']
    else
      let (digits, power) := x.scientific
      if positional power then placePoint digits power else placeExponent digits power
  String.ofList (if x.negative then '-' :: size else size)

end Binary64
end CloudClient.Json
