import CloudClient.Text.Canonical
import CloudClient.Text.Direction
import CloudClient.Text.Joining
import CloudClient.Url.Address
import CloudClient.Url.DomainTable
import CloudClient.Url.FoldTable
import CloudClient.Url.FoldWords
import CloudClient.Url.Punycode
/-! Domain names. A name is folded, without regard to case, width and shape of its characters, and
brought into canonical form. Then its labels are checked, those in Punycode as the text that they stand
for. -/
namespace CloudClient.Url

def inRun? (n : Nat) : Option Char :=
  (foldedRuns.find? fun (first, last, step, _, _) => first ≤ n && n ≤ last && (n - first) % step == 0).map
    fun (first, _, step, start, pace) => Char.ofNat (start + (n - first) / step * pace)

def inBlock? (n : Nat) : Option Char :=
  (foldedBlocks.find? fun (first, text) => first ≤ n && n < first + text.length).bind
    fun (first, text) => text.toList[n - first]?

def foldAdmitted (c : Char) : List Char :=
  let n := c.toNat
  match foldedLetters.find? (·.1 == n) with
  | some (_, letter) => [Char.ofNat letter]
  | none => match inRun? n with
    | some letter => [letter]
    | none => match inBlock? n with
      | some letter => [letter]
      | none => match foldedWords.find? (·.1 == n) with
        | some (_, word) => word.toList
        | none => [c]

def fold (c : Char) : Option (List Char) :=
  if c.toNat < 0x80 then some [c.toLower]
  else if Text.inRanges droppedRanges c then some []
  else if Text.inRanges admittedRanges c then some (foldAdmitted c)
  else none

def foldAll (s : List Char) : Option (List Char) := (s.mapM fold).map List.flatten

namespace Domain

def isForbidden (c : Char) : Bool :=
  c.toNat ≤ 0x20 || c.toNat == 0x7F || "#/:<>?@[\\]^|%".toList.contains c

def isAscii (s : List Char) : Bool := s.all (·.toNat < 0x80)

def isSettled (s : List Char) : Bool :=
  s.all (fun c => fold c == some [c]) && Text.canonical s == s

def maxCoded : Nat := 2000

def maxLabel : Nat := 1000

def labelText? : List Char → Option (List Char)
  | 'x' :: 'n' :: '-' :: '-' :: coded =>
    if maxCoded < coded.length then none else (Punycode.decode coded).filter isSettled
  | label => some label

def isLabel (label : List Char) : Bool :=
  !label.any isForbidden && (isAscii label ||
    (label.length ≤ maxLabel && !label.head?.any Text.isMark && Text.joinersFit [] label))

def areWords (labels : List (List Char)) : Bool :=
  let directions := labels.map (·.map Text.direction)
  !directions.any (·.any Text.Direction.isRightToLeft) || directions.all Text.Direction.isWord

def isName (name : List Char) : Bool :=
  match (Form.splitOn '.' name).mapM labelText? with
  | some labels => labels.all isLabel && (labels.all isAscii || areWords labels)
  | none => false

def read (s : List Char) : Option (List Char) :=
  ((foldAll s).map Text.canonical).filter isName

end Domain
end CloudClient.Url
