/-! Spans of time in nanoseconds. Whole seconds are what providers see, so `seconds` rounds
down; `text` writes a span in the largest unit that it fills. -/
namespace CloudClient

structure Duration where
  nanos : Nat
  deriving DecidableEq, Repr, Inhabited

namespace Duration

def nanosPerSecond : Nat := 1000000000

def ofSeconds (n : Nat) : Duration := ⟨n * nanosPerSecond⟩

def ofMillis (n : Nat) : Duration := ⟨n * 1000000⟩

def zero : Duration := ⟨0⟩

def seconds (d : Duration) : Nat := d.nanos / nanosPerSecond

def millis (d : Duration) : Nat := d.nanos / 1000000

instance : LE Duration := ⟨fun a b => a.nanos ≤ b.nanos⟩

instance : LT Duration := ⟨fun a b => a.nanos < b.nanos⟩

instance (a b : Duration) : Decidable (a ≤ b) := inferInstanceAs (Decidable (a.nanos ≤ b.nanos))

instance (a b : Duration) : Decidable (a < b) := inferInstanceAs (Decidable (a.nanos < b.nanos))

instance : Add Duration := ⟨fun a b => ⟨a.nanos + b.nanos⟩⟩

instance : Min Duration := ⟨fun a b => ⟨min a.nanos b.nanos⟩⟩

def scale (d : Duration) (n : Nat) : Duration := ⟨d.nanos * n⟩

theorem le_def (a b : Duration) : a ≤ b ↔ a.nanos ≤ b.nanos := Iff.rfl

theorem lt_def (a b : Duration) : a < b ↔ a.nanos < b.nanos := Iff.rfl

@[simp] theorem nanos_add (a b : Duration) : (a + b).nanos = a.nanos + b.nanos := rfl

@[simp] theorem nanos_min (a b : Duration) : (min a b).nanos = min a.nanos b.nanos := rfl

@[simp] theorem nanos_scale (d : Duration) (n : Nat) : (d.scale n).nanos = d.nanos * n := rfl

@[simp] theorem nanos_ofSeconds (n : Nat) : (ofSeconds n).nanos = n * nanosPerSecond := rfl

@[simp] theorem seconds_ofSeconds (n : Nat) : (ofSeconds n).seconds = n :=
  Nat.mul_div_cancel n (by decide)

/-- Seconds are counted in 64 bits, so a span of `2 ^ 64` seconds or more has no clock reading. -/
def limit : Duration := ofSeconds UInt64.size

def checked (d : Duration) : Option Duration := if d < limit then some d else none

def trimZeros (digits : List Char) : List Char :=
  (digits.reverse.dropWhile (· == '0')).reverse

def padded (width n : Nat) : List Char :=
  let digits := Nat.toDigits 10 n
  List.replicate (width - digits.length) '0' ++ digits

def decimal (places n : Nat) : String :=
  let fraction := trimZeros (padded places (n % Nat.pow 10 places))
  let whole := String.ofList (Nat.toDigits 10 (n / Nat.pow 10 places))
  if fraction.isEmpty then whole else whole ++ "." ++ String.ofList fraction

def text (d : Duration) : String :=
  if nanosPerSecond ≤ d.nanos then decimal 9 d.nanos ++ "s"
  else if 1000000 ≤ d.nanos then decimal 6 d.nanos ++ "ms"
  else if 1000 ≤ d.nanos then decimal 3 d.nanos ++ "µs"
  else decimal 0 d.nanos ++ "ns"

end Duration
end CloudClient
