import CloudClient.Url.Form
/-! Numeric hosts. An IPv4 address is one to four numbers in base 8, 10 or 16, the last of which
fills the octets left over; an IPv6 address is eight groups, a run of zero groups written `::`. -/
namespace CloudClient.Url

def isDecimal (c : Char) : Bool := '0' ≤ c && c ≤ '9'

def inBase (base : Nat) (digits : List Char) : Option Nat :=
  digits.foldl (fun n c =>
    match n, hexValue? c.toNat with
    | some n, some d => if d < base then some (n * base + d) else none
    | _, _ => none) (some 0)

namespace Ipv4

def number? : List Char → Option Nat
  | [] => none
  | '0' :: 'x' :: digits => inBase 16 digits
  | '0' :: 'X' :: digits => inBase 16 digits
  | '0' :: d :: digits => inBase 8 (d :: digits)
  | digits => inBase 10 digits

def parts (name : List Char) : List (List Char) :=
  let all := Form.splitOn '.' name
  if all.getLast? = some [] ∧ 1 < all.length then all.dropLast else all

def isNumeric (name : List Char) : Bool :=
  match (parts name).getLast? with
  | none => false
  | some last => (last != [] && last.all isDecimal) || (number? last).isSome

def combine (octets : List Nat) (last : Nat) : Option Nat :=
  if octets.any (255 < ·) || Nat.pow 256 (4 - octets.length) ≤ last then none
  else some (octets.foldl (fun n o => n * 256 + o) 0 * Nat.pow 256 (4 - octets.length) + last)

def parse (name : List Char) : Option Nat :=
  let parts := parts name
  if 4 < parts.length then none
  else match parts.mapM number? with
    | none => none
    | some numbers => combine numbers.dropLast (numbers.getLast?.getD 0)

end Ipv4

namespace Ipv6

def octet? (digits : List Char) : Option Nat :=
  match digits with
  | [] => none
  | '0' :: _ :: _ => none
  | digits =>
    if digits.all isDecimal then (inBase 10 digits).bind fun n => if n ≤ 255 then some n else none
    else none

def dotted? (s : List Char) : Option (List Nat) :=
  match (Form.splitOn '.' s).map octet? with
  | [some a, some b, some c, some d] => some [a * 256 + b, c * 256 + d]
  | _ => none

/-- Reads groups until the end. `gap` is the number of groups before the end of `::`, which counts
as one group itself. -/
def groups (read : List Nat) (gap : Option Nat) (s : List Char) : Option (List Nat × Option Nat) :=
  match s with
  | [] => some (read, gap)
  | c :: after =>
    if read.length = 8 then none
    else if c = ':' then
      if gap.isSome then none else groups (read ++ [0]) (some (read.length + 1)) after
    else
      let digits := ((c :: after).take 4).takeWhile fun d => (hexValue? d.toNat).isSome
      match h : (c :: after).drop digits.length with
      | [] => (inBase 16 digits).map fun n => (read ++ [n], gap)
      | ':' :: rest =>
        if rest = [] then none
        else match inBase 16 digits with
          | some n => groups (read ++ [n]) gap rest
          | none => none
      | '.' :: _ =>
        if digits = [] ∨ 6 < read.length then none
        else (dotted? (c :: after)).map fun two => (read ++ two, gap)
      | _ => none
termination_by s.length
decreasing_by
  · simp
  · have := congrArg List.length h
    simp only [List.length_drop, List.length_cons] at this
    simp only [List.length_cons]
    omega

def start? : List Char → Option (List Nat × Option Nat)
  | ':' :: ':' :: rest => groups [0] (some 1) rest
  | ':' :: _ => none
  | [] => none
  | [_] => none
  | s => groups [] none s

def parse (s : List Char) : Option (List Nat) :=
  match start? s with
  | none => none
  | some (read, none) => if read.length = 8 then some read else none
  | some (read, some gap) =>
    if 8 < read.length then none
    else some (read.take gap ++ List.replicate (8 - read.length) 0 ++ read.drop gap)

end Ipv6
end CloudClient.Url
