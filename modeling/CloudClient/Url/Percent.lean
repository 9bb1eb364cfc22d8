import CloudClient.Text.Utf8
/-! Percent encoding: a character that may not stand for itself is written as its UTF-8 octets, each
as `%` and two upper-case hexadecimal digits. Which characters these are depends on the place. -/
namespace CloudClient.Url

open CloudClient.Text

def hexDigit (n : Nat) : Char := if n < 10 then Char.ofNat (48 + n) else Char.ofNat (55 + n)

def hexValue? (n : Nat) : Option Nat :=
  if 48 ≤ n ∧ n ≤ 57 then some (n - 48)
  else if 65 ≤ n ∧ n ≤ 70 then some (n - 55)
  else if 97 ≤ n ∧ n ≤ 102 then some (n - 87)
  else none

def percentOctet (n : Nat) : List Char := ['%', hexDigit (n / 16), hexDigit (n % 16)]

def percentEncode (escaped : Char → Bool) (s : List Char) : List Char :=
  s.flatMap fun c =>
    if escaped c || 0x80 ≤ c.toNat then (Utf8.encodeChar c).flatMap percentOctet else [c]

def percentDecode : List Nat → List Nat
  | 0x25 :: a :: b :: rest =>
    match hexValue? a, hexValue? b with
    | some high, some low => (high * 16 + low) :: percentDecode rest
    | _, _ => 0x25 :: percentDecode (a :: b :: rest)
  | octet :: rest => octet :: percentDecode rest
  | [] => []

def percentText (s : List Char) : List Char := Utf8.decode (percentDecode (Utf8.encode s))

def isControl (c : Char) : Bool := c.toNat < 0x20 || c.toNat == 0x7F

def inFragment (c : Char) : Bool :=
  isControl c || c == ' ' || c == '"' || c == '<' || c == '>' || c == '\x60'

def inPath (c : Char) : Bool :=
  inFragment c || c == '#' || c == '?' || c == '\x7b' || c == '\x7d'

def inQuery (special : Bool) (c : Char) : Bool :=
  isControl c || c == ' ' || c == '"' || c == '#' || c == '<' || c == '>' || (special && c == '\'')

end CloudClient.Url
