/-! Identities in a queue. Messages and claims are named by the queue with texts of its own; clients
name themselves with a UUID, of which the lower-case form with hyphens is the one that is sent. -/
namespace CloudClient.Queue

structure MessageId where
  text : String
  deriving DecidableEq, Repr, Inhabited

structure ClaimId where
  text : String
  deriving DecidableEq, Repr, Inhabited

structure ClientId where
  text : String
  deriving DecidableEq, Repr, Inhabited

namespace ClientId

def isHexDigit (c : Char) : Bool := ('0' ≤ c && c ≤ '9') || ('a' ≤ c && c ≤ 'f')

def groupLengths : List Nat := [8, 4, 4, 4, 12]

def hyphenate : List Nat → List Char → List Char
  | [], _ => []
  | [n], s => s.take n
  | n :: rest, s => s.take n ++ '-' :: hyphenate rest (s.drop n)

def enclosed? (s : List Char) : Option (List Char) :=
  if "urn:uuid:".toList.isPrefixOf s then some (s.drop 9)
  else match s with
    | '\x7b' :: rest => if rest.getLast? = some '\x7d' then some rest.dropLast else none
    | _ => none

/-- The UUID of a text in any case. Its hyphens may be left out, but not where it is enclosed. -/
def ofUuid? (text : String) : Option ClientId :=
  let enclosed := enclosed? text.toList
  let given := (enclosed.getD text.toList).map Char.toLower
  let digits := given.filter (· != '-')
  let written := hyphenate groupLengths digits
  let wellFormed := given = written ∨ (enclosed.isNone ∧ given = digits)
  if digits.length = 32 ∧ digits.all isHexDigit ∧ wellFormed then some ⟨String.ofList written⟩
  else none

end ClientId
end CloudClient.Queue
