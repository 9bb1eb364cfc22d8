import CloudClient.Json.Tree
import CloudClient.Json.DecodeError
/-! Decoders of typed data. Each one reads two forms: the tree of a text, in the order of the text,
so that the first fault in the text is the one reported; and a value, whose members come in key
order. The two differ in repeated members, in surplus items and in how deep a text may nest. -/
namespace CloudClient.Json

structure Decoder (α : Type) where
  ofTree : Nat → Tree → Except DecodeError α
  ofValue : Json → Except DecodeError α

namespace Decoder

variable {α β σ : Type}

def decodeText (d : Decoder α) (text : String) : Except DecodeError α :=
  let (tree, whole) := Tree.ofText text
  match d.ofTree Tree.maxDepth tree with
  | .error e => .error e
  | .ok a => if whole then .ok a else .error .notJson

def foundInTree : Tree → Except DecodeError Found
  | .null => .ok .null
  | .bool b => .ok (.bool b)
  | .number (some n) => .ok (.number n)
  | .string (some s) => .ok (.string s)
  | .array .. => .ok .sequence
  | .object .. => .ok .map
  | _ => .error .notJson

def foundInValue : Json → Found
  | .null => .null
  | .bool b => .bool b
  | .number n => .number n
  | .string s => .string s
  | .array _ => .sequence
  | .object _ => .map

def mistypedTree (expected : String) (t : Tree) : Except DecodeError α :=
  match foundInTree t with
  | .ok found => .error (.invalidType found expected)
  | .error e => .error e

def mistypedValue (expected : String) (v : Json) : Except DecodeError α :=
  .error (.invalidType (foundInValue v) expected)

def map (f : α → β) (d : Decoder α) : Decoder β where
  ofTree depth t := (d.ofTree depth t).map f
  ofValue v := (d.ofValue v).map f

def refine (f : α → Except String β) (d : Decoder α) : Decoder β where
  ofTree depth t := (d.ofTree depth t).bind fun a => (f a).mapError .refused
  ofValue v := (d.ofValue v).bind fun a => (f a).mapError .refused

def json : Decoder Json where
  ofTree depth t := match t.value? depth with
    | some v => .ok v
    | none => .error .notJson
  ofValue v := .ok v

def string : Decoder String where
  ofTree _ t := match t with
    | .string (some s) => .ok s
    | t => mistypedTree "a string" t
  ofValue v := match v with
    | .string s => .ok s
    | v => mistypedValue "a string" v

def natural (n : Number) : Except DecodeError Nat :=
  match n with
  | .integer (.ofNat k) => .ok k
  | .integer k => .error (.invalidValue (.number (.integer k)) "u64")
  | .float x => .error (.invalidType (.number (.float x)) "u64")

def nat : Decoder Nat where
  ofTree _ t := match t with
    | .number (some n) => natural n
    | t => mistypedTree "u64" t
  ofValue v := match v with
    | .number n => natural n
    | v => mistypedValue "u64" v

def optional (d : Decoder α) : Decoder (Option α) where
  ofTree depth t := match t with
    | .null => .ok none
    | t => (d.ofTree depth t).map some
  ofValue v := match v with
    | .null => .ok none
    | v => (d.ofValue v).map some

def null : Decoder Unit where
  ofTree _ t := match t with
    | .null => .ok ()
    | t => mistypedTree "unit" t
  ofValue v := match v with
    | .null => .ok ()
    | v => mistypedValue "unit" v

def each {ι : Type} (read : ι → Except DecodeError α) : List ι → Except DecodeError (List α)
  | [] => .ok []
  | item :: rest =>
    match read item with
    | .error e => .error e
    | .ok a => (each read rest).map (a :: ·)

def list (d : Decoder α) : Decoder (List α) where
  ofTree depth t := match t, depth with
    | .array _ _, 0 => .error .notJson
    | .array items closed, depth + 1 =>
      match each (d.ofTree depth) items with
      | .error e => .error e
      | .ok as => if closed then .ok as else .error .notJson
    | t, _ => mistypedTree "a sequence" t
  ofValue v := match v with
    | .array items => each d.ofValue items
    | v => mistypedValue "a sequence" v

def variant (variants : List (String × α)) (name : String) : Except DecodeError α :=
  match variants.find? (·.1 == name) with
  | some (_, a) => .ok a
  | none => .error (.unknownVariant name (variants.map (·.1)))

def choice (variants : List (String × α)) : Decoder α where
  ofTree depth t := match t, depth with
    | .string (some name), _ => variant variants name
    | .object _ _, 0 => .error .notJson
    | .object ((.text name, payload) :: rest) closed, depth + 1 =>
      match variant variants name, null.ofTree depth payload with
      | .error e, _ => .error e
      | _, .error e => .error e
      | .ok a, .ok () => if closed && rest.isEmpty then .ok a else .error .notJson
    | .object ((.other, payload) :: _) _, _ => mistypedTree "variant identifier" payload
    | _, _ => .error .notJson
  ofValue v := match v with
    | .string name => variant variants name
    | .object [(name, payload)] =>
      match variant variants name, null.ofValue payload with
      | .error e, _ => .error e
      | _, .error e => .error e
      | .ok a, .ok () => .ok a
    | .object _ => .error (.invalidValue .map "map with a single key")
    | v => mistypedValue "string or map" v

structure Field (σ : Type) where
  name : String
  required : Bool
  isSet : σ → Bool
  decoder : Decoder (σ → σ)

def recordText (name : String) : String := "struct " ++ name

def lengthText (name : String) (fields : List (Field σ)) : String :=
  recordText name ++ " with " ++ toString fields.length ++
    (if fields.length = 1 then " element" else " elements")

def complete (fields : List (Field σ)) (s : σ) : Except DecodeError σ :=
  match fields.find? fun f => f.required && !f.isSet s with
  | some f => .error (.missingField f.name)
  | none => .ok s

def readMembers (fields : List (Field σ)) (depth : Nat) : σ → List (Key × Tree) → Except DecodeError σ
  | s, [] => .ok s
  | s, (.text key, item) :: rest =>
    match fields.find? (·.name == key) with
    | none => if item.isWhole then readMembers fields depth s rest else .error .notJson
    | some f =>
      if f.isSet s then .error (.duplicateField key)
      else match f.decoder.ofTree depth item with
        | .error e => .error e
        | .ok set => readMembers fields depth (set s) rest
  | _, _ :: _ => .error .notJson

def readValues (fields : List (Field σ)) : σ → Members → Except DecodeError σ
  | s, [] => .ok s
  | s, (key, item) :: rest =>
    match fields.find? (·.name == key) with
    | none => readValues fields s rest
    | some f => match f.decoder.ofValue item with
      | .error e => .error e
      | .ok set => readValues fields (set s) rest

/-- Reads fields by position and gives back the surplus items. Where the items end, `ended` says
whether they may, and `short` is the error of a required field at that place. -/
def readPositions {ι : Type} (read : Field σ → ι → Except DecodeError (σ → σ))
    (ended : Except DecodeError Unit) (short : Nat → DecodeError) :
    Nat → List (Field σ) → List ι → σ → Except DecodeError (σ × List ι)
  | _, [], items, s => .ok (s, items)
  | i, f :: fields, [], s =>
    match ended with
    | .error e => .error e
    | .ok () =>
      if f.required then .error (short i) else readPositions read ended short (i + 1) fields [] s
  | i, f :: fields, item :: items, s =>
    match read f item with
    | .error e => .error e
    | .ok set => readPositions read ended short (i + 1) fields items (set s)

def record (name : String) (fields : List (Field σ)) (empty : σ) : Decoder σ where
  ofTree depth t := match t, depth with
    | .object _ _, 0 | .array _ _, 0 => .error .notJson
    | .object members closed, depth + 1 =>
      match readMembers fields depth empty members with
      | .error e => .error e
      | .ok s => if closed then complete fields s else .error .notJson
    | .array items closed, depth + 1 =>
      let ended := if closed then .ok () else .error .notJson
      match readPositions (fun f item => f.decoder.ofTree depth item) ended
          (fun i => .invalidLength i (lengthText name fields)) 0 fields items empty with
      | .error e => .error e
      | .ok (s, surplus) => if closed && surplus.isEmpty then .ok s else .error .notJson
    | t, _ => mistypedTree (recordText name) t
  ofValue v := match v with
    | .object members =>
      match readValues fields empty members with
      | .error e => .error e
      | .ok s => complete fields s
    | .array items =>
      match readPositions (fun f item => f.decoder.ofValue item) (.ok ())
          (fun i => .invalidLength i (lengthText name fields)) 0 fields items empty with
      | .error e => .error e
      | .ok (s, surplus) =>
        if surplus.isEmpty then .ok s
        else .error (.invalidLength items.length "fewer elements in array")
    | v => mistypedValue (recordText name) v

end Decoder
end CloudClient.Json
