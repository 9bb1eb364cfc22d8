import CloudClient.Url.Percent
/-! Key and value pairs in a query: pairs are joined by `&`, a key and its value by `=`, and a space
is written `+`. Reading is total; it undoes writing. -/
namespace CloudClient.Url.Form

open CloudClient.Text

def isPlain (n : Nat) : Bool :=
  (48 ≤ n && n ≤ 57) || (65 ≤ n && n ≤ 90) || (97 ≤ n && n ≤ 122) ||
  n == 42 || n == 45 || n == 46 || n == 95

def encodeOctet (n : Nat) : List Char :=
  if isPlain n then [Char.ofNat n] else if n = 0x20 then ['+'] else percentOctet n

def encodeText (s : List Char) : List Char := (Utf8.encode s).flatMap encodeOctet

def encodePair (pair : String × String) : List Char :=
  encodeText pair.1.toList ++ '=' :: encodeText pair.2.toList

def encode : List (String × String) → List Char
  | [] => []
  | [pair] => encodePair pair
  | pair :: rest => encodePair pair ++ '&' :: encode rest

def splitOn (separator : Char) : List Char → List (List Char)
  | [] => [[]]
  | c :: rest =>
    if c = separator then [] :: splitOn separator rest
    else match splitOn separator rest with
      | part :: parts => (c :: part) :: parts
      | [] => [[c]]

def splitFirst (separator : Char) (s : List Char) : List Char × Option (List Char) :=
  match s.dropWhile (· != separator) with
  | [] => (s.takeWhile (· != separator), none)
  | _ :: after => (s.takeWhile (· != separator), some after)

def decodeText (s : List Char) : String :=
  String.ofList (percentText (s.map fun c => if c = '+' then ' ' else c))

def decodePair (s : List Char) : String × String :=
  let (key, value) := splitFirst '=' s
  (decodeText key, decodeText (value.getD []))

def decode (query : List Char) : List (String × String) :=
  ((splitOn '&' query).filter (· != [])).map decodePair

def firstValue (key : String) (pairs : List (String × String)) : Option String :=
  (pairs.find? (·.1 == key)).map (·.2)

end CloudClient.Url.Form
