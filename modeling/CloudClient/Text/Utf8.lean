/-! Octets of a text. `encode` writes UTF-8; `decode` reads any octets and puts U+FFFD where a
sequence breaks off, so it is total. Octets are natural numbers below 256. -/
namespace CloudClient.Text.Utf8

def encodeChar (c : Char) : List Nat :=
  let n := c.toNat
  if n < 0x80 then [n]
  else if n < 0x800 then [0xC0 + n / 0x40, 0x80 + n % 0x40]
  else if n < 0x10000 then [0xE0 + n / 0x1000, 0x80 + n / 0x40 % 0x40, 0x80 + n % 0x40]
  else [0xF0 + n / 0x40000, 0x80 + n / 0x1000 % 0x40, 0x80 + n / 0x40 % 0x40, 0x80 + n % 0x40]

def encode (s : List Char) : List Nat := s.flatMap encodeChar

/-- Between characters, or inside one: how many octets it still needs, the range of the next
of them, and the bits read so far. -/
inductive State
  | start
  | inside (needed low high bits : Nat)
  deriving DecidableEq, Repr

inductive Opening
  | whole (c : Char)
  | more (s : State)
  | refused

def openWith (b : Nat) : Opening :=
  if b < 0x80 then .whole (Char.ofNat b)
  else if 0xC2 ≤ b ∧ b ≤ 0xDF then .more (.inside 1 0x80 0xBF (b - 0xC0))
  else if b = 0xE0 then .more (.inside 2 0xA0 0xBF 0)
  else if b = 0xED then .more (.inside 2 0x80 0x9F 13)
  else if 0xE1 ≤ b ∧ b ≤ 0xEF then .more (.inside 2 0x80 0xBF (b - 0xE0))
  else if b = 0xF0 then .more (.inside 3 0x90 0xBF 0)
  else if 0xF1 ≤ b ∧ b ≤ 0xF3 then .more (.inside 3 0x80 0xBF (b - 0xF0))
  else if b = 0xF4 then .more (.inside 3 0x80 0x8F 4)
  else .refused

def replacement : Char := '\uFFFD'

def enter (b : Nat) : List Char × State :=
  match openWith b with
  | .whole c => ([c], .start)
  | .more s => ([], s)
  | .refused => ([replacement], .start)

/-- Reads one octet. An octet that does not continue the open character ends it with U+FFFD
and is read again as a first octet. -/
def step : State → Nat → List Char × State
  | .start, b => enter b
  | .inside needed low high bits, b =>
    if low ≤ b ∧ b ≤ high then
      let bits := bits * 0x40 + (b - 0x80)
      if needed ≤ 1 then ([Char.ofNat bits], .start)
      else ([], .inside (needed - 1) 0x80 0xBF bits)
    else
      let again := enter b
      (replacement :: again.1, again.2)

def decodeFrom : State → List Nat → List Char
  | .start, [] => []
  | .inside .., [] => [replacement]
  | s, b :: rest =>
    let next := step s b
    next.1 ++ decodeFrom next.2 rest

def decode (octets : List Nat) : List Char := decodeFrom .start octets

end CloudClient.Text.Utf8
