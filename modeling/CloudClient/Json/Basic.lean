import CloudClient.Json.Binary64
/-! JSON values. An object lists its members in increasing key order, each key once; `Members.put`
keeps that order, and a later member replaces an earlier one of its key. -/
namespace CloudClient

/-- Integers from `-2 ^ 63` to `2 ^ 64 - 1` are held as they are, all other numbers in binary64. -/
inductive Json.Number
  | integer (n : Int)
  | float (x : Json.Binary64)
  deriving DecidableEq, Repr

inductive Json
  | null
  | bool (b : Bool)
  | number (n : Json.Number)
  | string (s : String)
  | array (items : List Json)
  | object (members : List (String × Json))
  deriving Repr, Inhabited

namespace Json

abbrev Members := List (String × Json)

def Members.put (key : String) (value : Json) : Members → Members
  | [] => [(key, value)]
  | (k, v) :: rest =>
    if key < k then (key, value) :: (k, v) :: rest
    else if key = k then (key, value) :: rest
    else (k, v) :: Members.put key value rest

def Members.ofList (pairs : List (String × Json)) : Members :=
  pairs.foldl (fun members pair => members.put pair.1 pair.2) []

def Members.get? (members : Members) (key : String) : Option Json :=
  (members.find? (·.1 == key)).map (·.2)

def ofNat (n : Nat) : Json := .number (.integer n)

def ofInt (n : Int) : Json := .number (.integer n)

def record (pairs : List (String × Json)) : Json := .object (Members.ofList pairs)

def get? (key : String) : Json → Option Json
  | .object members => Members.get? members key
  | _ => none

def asString? : Json → Option String
  | .string s => some s
  | _ => none

def kind : Json → String
  | .null => "null"
  | .bool _ => "boolean"
  | .number _ => "number"
  | .string _ => "string"
  | .array _ => "array"
  | .object _ => "object"

def Number.text : Number → String
  | .integer n => toString n
  | .float x => x.text

end Json
end CloudClient
