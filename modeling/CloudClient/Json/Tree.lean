import CloudClient.Json.Token
/-! The tree of a text as far as it is JSON. Members keep their order and repetitions; an array or
object that a fault or the end of the text cuts off is not `closed`. A tree without such parts is a
value, `Tree.value?`, when its nesting, numbers and escapes are within bounds. -/
namespace CloudClient.Json

inductive Key
  | text (s : String)
  | unpaired
  | other
  deriving DecidableEq, Repr

inductive Tree
  | null
  | bool (b : Bool)
  | number (n : Option Number)
  | string (s : Option String)
  | array (items : List Tree) (closed : Bool)
  | object (members : List (Key × Tree)) (closed : Bool)
  | missing
  deriving Repr, Inhabited

namespace Tree

inductive Frame
  | array (items : List Tree)
  | object (members : List (Key × Tree))
  | member (members : List (Key × Tree)) (key : Key)
  deriving Repr

def Frame.cut (inner : Option Tree) : Frame → Tree
  | .array items => .array (items ++ inner.toList) false
  | .object members => .object members false
  | .member members key => .object (members ++ [(key, inner.getD .missing)]) false

def cutAll (inner : Option Tree) : List Frame → Tree
  | [] => inner.getD .missing
  | frame :: outer => cutAll (some (frame.cut inner)) outer

/-- What may come next. `first` is a value or key right after an opening bracket, where the closing
one may stand as well. -/
inductive Expect
  | value
  | first
  | key
  | colon
  | next
  deriving DecidableEq, Repr

def ofToken? : Token → Option Tree
  | .null => some .null
  | .bool b => some (.bool b)
  | .number n => some (.number n)
  | .string s => some (.string s)
  | _ => none

def keyOf : Token → Option (Key × Tree)
  | .string (some s) => some (.text s, .missing)
  | .string none => some (.unpaired, .missing)
  | .openArray => some (.other, .array [] false)
  | .openObject => some (.other, .object [] false)
  | token => (ofToken? token).map (.other, ·)

inductive Growth
  | open (frames : List Frame) (expect : Expect)
  | whole (tree : Tree)

def place (value : Tree) : List Frame → Growth
  | [] => .whole value
  | .array items :: outer => .open (.array (items ++ [value]) :: outer) .next
  | .member members key :: outer => .open (.object (members ++ [(key, value)]) :: outer) .next
  | .object members :: outer => .open (.object members :: outer) .next

def Growth.step : Growth → Token → Except Tree Growth
  | .whole tree, _ => .error tree
  | .open frames expect, token =>
    match expect, frames, token with
    | .first, .array items :: outer, .closeArray => .ok (place (.array items true) outer)
    | .next, .array items :: outer, .closeArray => .ok (place (.array items true) outer)
    | .first, .object members :: outer, .closeObject => .ok (place (.object members true) outer)
    | .next, .object members :: outer, .closeObject => .ok (place (.object members true) outer)
    | .next, .array items :: outer, .comma => .ok (.open (.array items :: outer) .value)
    | .next, .object members :: outer, .comma => .ok (.open (.object members :: outer) .key)
    | .colon, frames, .colon => .ok (.open frames .value)
    | .first, .object members :: outer, token => readKey members outer token
    | .key, .object members :: outer, token => readKey members outer token
    | .first, frames, token => readValue frames token
    | .value, frames, token => readValue frames token
    | _, frames, _ => .error (cutAll none frames)
where
  readKey (members : List (Key × Tree)) (outer : List Frame) (token : Token) : Except Tree Growth :=
    match keyOf token with
    | some (.other, value) => .error (cutAll (some (.object (members ++ [(.other, value)]) false)) outer)
    | some (key, _) => .ok (.open (.member members key :: outer) .colon)
    | none => .error (cutAll none (.object members :: outer))
  readValue (frames : List Frame) (token : Token) : Except Tree Growth :=
    match token with
    | .openArray => .ok (.open (.array [] :: frames) .first)
    | .openObject => .ok (.open (.object [] :: frames) .first)
    | token =>
      match ofToken? token with
      | some value => .ok (place value frames)
      | none => .error (cutAll none frames)

def grow : Growth → List Token → Tree × Bool
  | .whole tree, [] => (tree, true)
  | .open frames _, [] => (cutAll none frames, false)
  | growth, token :: rest =>
    match growth.step token with
    | .ok growth => grow growth rest
    | .error tree => (tree, false)

def ofText (text : String) : Tree × Bool := grow (.open [] .value) (tokens text)

def maxDepth : Nat := 127

mutual

def value? (depth : Nat) : Tree → Option Json
  | .null => some .null
  | .bool b => some (.bool b)
  | .number n => n.map .number
  | .string s => s.map .string
  | .array items closed =>
    match depth with
    | 0 => none
    | depth + 1 => if closed then (values? depth items).map .array else none
  | .object members closed =>
    match depth with
    | 0 => none
    | depth + 1 =>
      if closed then (members? depth members).map fun pairs => .object (Members.ofList pairs) else none
  | .missing => none

def values? (depth : Nat) : List Tree → Option (List Json)
  | [] => some []
  | item :: rest =>
    match value? depth item, values? depth rest with
    | some value, some values => some (value :: values)
    | _, _ => none

def members? (depth : Nat) : List (Key × Tree) → Option (List (String × Json))
  | [] => some []
  | (.text key, item) :: rest =>
    match value? depth item, members? depth rest with
    | some value, some pairs => some ((key, value) :: pairs)
    | _, _ => none
  | _ :: _ => none

end

mutual

/-- A tree with no part cut off. Its nesting, numbers and escapes are not looked at, because a
reader that skips it does not look at them either. -/
def isWhole : Tree → Bool
  | .array items closed => closed && areWhole items
  | .object members closed => closed && membersWhole members
  | .missing => false
  | _ => true

def areWhole : List Tree → Bool
  | [] => true
  | item :: rest => isWhole item && areWhole rest

def membersWhole : List (Key × Tree) → Bool
  | [] => true
  | (_, item) :: rest => isWhole item && membersWhole rest

end

end Tree

def parse (text : String) : Option Json :=
  match Tree.ofText text with
  | (tree, true) => tree.value? Tree.maxDepth
  | (_, false) => none

end CloudClient.Json
