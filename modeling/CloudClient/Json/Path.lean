import CloudClient.Json.Basic
/-! Dotted paths into a value: `a.b.c` names the member `c` of the member `b` of the member `a`.
A leading `$.` may be written, and the empty path and `$` name the value itself. -/
namespace CloudClient.Json

def splitDots : List Char → List (List Char)
  | [] => [[]]
  | c :: rest =>
    match splitDots rest with
    | [] => [[c]]
    | part :: parts => if c = '.' then [] :: part :: parts else (c :: part) :: parts

def descend (v : Json) : List String → Option Json
  | [] => some v
  | key :: rest =>
    match v.get? key with
    | some member => descend member rest
    | none => none

def stripRoot : List Char → List Char
  | '$' :: '.' :: rest => rest
  | path => path

def keysOf (path : String) : List String :=
  let rest := stripRoot path.toList
  if rest = [] ∨ rest = ['$'] then [] else (splitDots rest).map String.ofList

def lookup (v : Json) (path : String) : Option Json := v.descend (keysOf path)

end CloudClient.Json
