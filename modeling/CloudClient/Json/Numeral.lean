import CloudClient.Json.Basic
/-! Numerals and the numbers they stand for. As many leading digits as a 64-bit significand holds
count; the number is the significand in binary64 times or over a power of ten in binary64, each
step rounded once. -/
namespace CloudClient.Json

structure Numeral where
  negative : Bool
  whole : List Nat
  fraction : List Nat
  exponent : Option (Bool × List Nat)
  deriving DecidableEq, Repr

namespace Numeral

def maxSignificand : Nat := UInt64.size - 1

def fill (significand : Nat) : List Nat → Nat × List Nat
  | [] => (significand, [])
  | d :: rest =>
    if maxSignificand < significand * 10 + d then (significand, d :: rest)
    else fill (significand * 10 + d) rest

def digitsValue (digits : List Nat) : Nat := digits.foldl (fun n d => n * 10 + d) 0

def powerOfTen (k : Nat) : Binary64 :=
  (Binary64.nearest false (Nat.pow 10 k) 1).getD (Binary64.zero false)

/-- `significand * 10 ^ power` in binary64, or `none` beyond its range. Powers below -308 divide
twice; below -616 every significand is rounded to zero. -/
def scaled (negative : Bool) (significand : Nat) (power : Int) : Option Binary64 :=
  match Binary64.nearest negative significand 1 with
  | none => none
  | some x =>
    if x.isZero then some x
    else if 308 < power then none
    else if 0 ≤ power then x.mul (powerOfTen power.toNat)
    else if -308 ≤ power then x.div (powerOfTen (-power).toNat)
    else if -616 ≤ power then
      (x.div (powerOfTen 308)).bind fun y => y.div (powerOfTen (-power - 308).toNat)
    else some (Binary64.zero negative)

def maxExponent : Nat := 0x7FFFFFFF

def value (n : Numeral) : Option Number :=
  let (head, skipped) := fill 0 n.whole
  if n.fraction.isEmpty && n.exponent.isNone && skipped.isEmpty &&
      (!n.negative || (head != 0 && head ≤ 0x8000000000000000)) then
    some (.integer (if n.negative then -head else head))
  else
    let (significand, unread) := fill head n.fraction
    let power : Int := (skipped.length : Int) - (n.fraction.length - unread.length : Nat)
    let number := match n.exponent with
      | none => scaled n.negative significand power
      | some (down, digits) =>
        let e := digitsValue digits
        if maxExponent < e then
          if significand = 0 || down then some (Binary64.zero n.negative) else none
        else scaled n.negative significand (if down then power - e else power + e)
    number.map .float

end Numeral
end CloudClient.Json
