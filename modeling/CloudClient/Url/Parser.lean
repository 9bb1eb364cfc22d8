import CloudClient.Url.Basic
/-! Reading a URL: blanks around it and line breaks within it do not count. Scheme, host, path, query
and fragment are told apart by their first delimiters. A reference without a scheme is read against
the root of an origin. -/
namespace CloudClient.Url

def trim (s : List Char) : List Char :=
  let outer (c : Char) : Bool := c.toNat ≤ 0x20
  ((s.dropWhile outer).reverse.dropWhile outer).reverse

def isBreak (c : Char) : Bool := c == '\t' || c == '\n' || c == '\r'

def unbroken (s : List Char) : List Char := s.filter fun c => !isBreak c

def isAlpha (c : Char) : Bool := ('a' ≤ c && c ≤ 'z') || ('A' ≤ c && c ≤ 'Z')

def inScheme (c : Char) : Bool :=
  isAlpha c || isDecimal c || c == '+' || c == '-' || c == '.'

def splitScheme (s : List Char) : Option (List Char × List Char) :=
  match s.head?, s.dropWhile inScheme with
  | some first, ':' :: rest =>
    if isAlpha first then some ((s.takeWhile inScheme).map Char.toLower, rest) else none
  | _, _ => none

def isSlash (special : Bool) (c : Char) : Bool := c == '/' || (special && c == '\\')

def splitSegments (slash : Char → Bool) : List Char → List (List Char)
  | [] => [[]]
  | c :: rest =>
    if slash c then [] :: splitSegments slash rest
    else match splitSegments slash rest with
      | part :: parts => (c :: part) :: parts
      | [] => [[c]]

def undot : List Char → List Char
  | '%' :: '2' :: 'e' :: rest => '.' :: undot rest
  | '%' :: '2' :: 'E' :: rest => '.' :: undot rest
  | c :: rest => c :: undot rest
  | [] => []

def isSingleDot (segment : List Char) : Bool := undot segment == ['.']

def isDoubleDot (segment : List Char) : Bool := undot segment == ['.', '.']

def isDrive : List Char → Bool
  | [letter, c] => isAlpha letter && (c == ':' || c == '|')
  | _ => false

def dropLastSegment (path : List (List Char)) : List (List Char) :=
  if path.getLast?.any isDrive then path else path.dropLast

def addSegment (path : List (List Char)) (segment : List Char) (last : Bool) : List (List Char) :=
  let ending := if last then [[]] else []
  if isDoubleDot segment then dropLastSegment path ++ ending
  else if isSingleDot segment then path ++ ending
  else path ++ [percentEncode inPath segment]

def cutDrive? (segment : List Char) : Option (List Char × List Char) :=
  let drive := unbroken (segment.takeWhile (· != ':')) ++ [':']
  let rest := (segment.dropWhile (· != ':')).drop 1
  if isDrive drive && rest.head?.any isBreak && !(unbroken rest).isEmpty then
    some (drive, unbroken rest)
  else none

/-- Adds one segment to the path of a file, where a drive letter in front is written with a colon
and is a segment of its own. -/
def addFileSegment (path : List (List Char)) (segment : List Char) (last : Bool) :
    List (List Char) :=
  let whole := unbroken segment
  if !path.isEmpty then addSegment path whole last
  else match cutDrive? segment with
    | some (drive, rest) => [drive, percentEncode inPath rest]
    | none => addSegment path (if isDrive whole then whole.take 1 ++ [':'] else whole) last

def addSegments (add : List (List Char) → List Char → Bool → List (List Char))
    (path : List (List Char)) : List (List Char) → List (List Char)
  | [] => path
  | [segment] => add path segment true
  | segment :: rest => addSegments add (add path segment false) rest

def dropSlash (special : Bool) : List Char → List Char
  | c :: rest => if isSlash special c then rest else c :: rest
  | [] => []

def readSegments (scheme : List Char) (s : List Char) : Path :=
  .segments (addSegments addSegment [] (splitSegments (isSlash (isSpecial scheme)) s))

def readPath (scheme : List Char) (s : List Char) : Path :=
  readSegments scheme (dropSlash (isSpecial scheme) s)

def readFilePath (path : List (List Char)) (s : List Char) : Path :=
  let path := addSegments addFileSegment path (splitSegments (isSlash true) s)
  match path.dropWhile (· == []) with
  | [] => .segments [[]]
  | rest => .segments rest

def isHostForbidden (c : Char) : Bool :=
  c == '\x00' || "\t\n\r #/:<>?@[\\]^|".toList.contains c

def bracketed? (s : List Char) : Option (Option (List Char)) :=
  match s with
  | '[' :: rest => some (if rest.getLast? = some ']' then some rest.dropLast else none)
  | _ => none

def readIpv6 (inner : Option (List Char)) : Except ParseError Host :=
  match inner.bind Ipv6.parse with
  | some groups => .ok (.ipv6 groups)
  | none => .error .invalidIpv6

def readDomain (s : List Char) : Except ParseError Host :=
  match bracketed? s with
  | some inner => readIpv6 inner
  | none =>
    match Domain.read (percentText s) with
    | none => .error .invalidDomain
    | some [] => .error .emptyHost
    | some name =>
      if Ipv4.isNumeric name then
        match Ipv4.parse name with
        | some address => .ok (.ipv4 address)
        | none => .error .invalidIpv4
      else .ok (.domain name)

def readPlainHost (s : List Char) : Except ParseError Host :=
  match bracketed? s with
  | some inner => readIpv6 inner
  | none =>
    if s.any isHostForbidden then .error .invalidHostCharacter
    else .ok (.domain (percentEncode isControl s))

def splitHost (inside : Bool) : List Char → List Char × List Char
  | [] => ([], [])
  | c :: rest =>
    if c == ':' && !inside then ([], c :: rest)
    else
      let inside := if c == '[' then true else if c == ']' then false else inside
      let (host, port) := splitHost inside rest
      (c :: host, port)

def readPort (scheme : List Char) (s : List Char) : Except ParseError (Option Nat × List Char) :=
  let digits := s.takeWhile isDecimal
  let rest := s.dropWhile isDecimal
  let value := (inBase 10 digits).getD 0
  if 65535 < value then .error .invalidPort
  else if rest != [] && rest.head? != some '\\' then .error .invalidPort
  else if digits.isEmpty || defaultPort scheme == some value then .ok (none, rest)
  else .ok (some value, rest)

def splitCredentials (s : List Char) : Option (List Char) × List Char :=
  let host := (s.reverse.takeWhile (· != '@')).reverse
  if s.contains '@' then (some (s.take (s.length - host.length - 1)), host) else (none, s)

/-- Host, port and what is left over of an authority. `followed` says whether anything stands after
the authority. -/
def readAuthority (scheme : List Char) (authority : List Char) (followed : Bool) :
    Except ParseError (Option Host × Option Nat × List Char) :=
  let special := isSpecial scheme
  let (credentials, rest) := splitCredentials authority
  let (hostText, portText) := splitHost false rest
  if credentials == some [] && rest.isEmpty && followed then .error .emptyHost
  else if special && hostText.isEmpty then .error .emptyHost
  else match if special then readDomain hostText else readPlainHost hostText with
    | .error e => .error e
    | .ok host =>
      let empty := host == .domain []
      if empty && (special || !portText.isEmpty) then .error .emptyHost
      else match readPort scheme (portText.drop 1) with
        | .error e => .error e
        | .ok (port, surplus) =>
          let named := credentials.any fun c => c != [] && c != [':']
          if empty && named then .error .emptyHost
          else .ok (if empty then none else some host, port, surplus)

structure Origin where
  scheme : List Char
  host : Host
  port : Option Nat

structure Parts where
  scheme : List Char
  host : Option Host
  port : Option Nat
  path : Path

def readHierarchy (scheme : List Char) (s : List Char) (tail : Bool) : Except ParseError Parts :=
  let special := isSpecial scheme
  let authority := s.takeWhile (!isSlash special ·)
  let rest := s.dropWhile (!isSlash special ·)
  match readAuthority scheme authority (tail || !rest.isEmpty) with
  | .error e => .error e
  | .ok (host, port, surplus) =>
    let below := surplus ++ rest
    let path := if below.isEmpty && !special then .segments []
      else if surplus.isEmpty then readPath scheme below
      else readSegments scheme below
    .ok { scheme, host, port, path }

def afterSlash? (s : List Char) : Option (List Char) :=
  match s.dropWhile isBreak with
  | c :: rest => if isSlash true c then some rest else none
  | [] => none

def readFile (s : List Char) : Except ParseError Parts :=
  let located (host : Option Host) (path : Path) : Parts :=
    { scheme := "file".toList, host, port := none, path }
  let single := (afterSlash? s).getD s
  match (afterSlash? s).bind afterSlash? with
  | none => .ok (located none (readFilePath [] single))
  | some rest =>
    let name := unbroken (rest.takeWhile (!isSlash true ·))
    let below := (rest.dropWhile (!isSlash true ·)).drop 1
    if isDrive name then .ok (located none (readFilePath [] rest))
    else if name.isEmpty then .ok (located none (readFilePath [[]] below))
    else match readDomain name with
      | .error e => .error e
      | .ok host =>
        let host := if host == .domain "localhost".toList then none else some host
        .ok (located host (readFilePath [] below))

def readRelative (origin : Origin) (s : List Char) (tail : Bool) : Except ParseError Parts :=
  let slash := isSlash (isSpecial origin.scheme)
  match s with
  | '/' :: '/' :: rest => readHierarchy origin.scheme rest tail
  | a :: b :: _ =>
    if slash a && slash b then readHierarchy origin.scheme (s.dropWhile slash) tail
    else .ok ⟨origin.scheme, origin.host, origin.port, readPath origin.scheme s⟩
  | _ => .ok ⟨origin.scheme, origin.host, origin.port, readPath origin.scheme s⟩

def readPlain (scheme : List Char) (s : List Char) (tail : Bool) : Except ParseError Parts :=
  match s with
  | '/' :: '/' :: rest => readHierarchy scheme rest tail
  | '/' :: _ => .ok ⟨scheme, none, none, readPath scheme s⟩
  | _ => .ok ⟨scheme, none, none, .bare (percentEncode isControl s)⟩

/-- Everything before query and fragment; `tail` says whether there is one of these. -/
def readParts (origin : Option Origin) (s : List Char) (tail : Bool) : Except ParseError Parts :=
  match splitScheme (unbroken s), origin with
  | some (scheme, rest), _ =>
    if isFile scheme then readFile ((s.dropWhile (· != ':')).drop 1)
    else if isSpecial scheme then
      let near := (rest.takeWhile (isSlash true)).length < 2
      match origin with
      | some origin =>
        if near && origin.scheme == scheme then readRelative origin rest tail
        else readHierarchy scheme (rest.dropWhile (isSlash true)) tail
      | none => readHierarchy scheme (rest.dropWhile (isSlash true)) tail
    else readPlain scheme rest tail
  | none, some origin => readRelative origin (unbroken s) tail
  | none, none => .error .relativeWithoutBase

def parse (origin : Option Origin) (text : String) : Except ParseError Url :=
  let (body, fragment) := Form.splitFirst '#' (trim text.toList)
  let (body, query) := Form.splitFirst '?' body
  match readParts origin body (query.isSome || fragment.isSome) with
  | .error e => .error e
  | .ok parts => .ok
    { scheme := parts.scheme, host := parts.host, port := parts.port, path := parts.path,
      query := query.map (percentEncode (inQuery (isSpecial parts.scheme)) ∘ unbroken),
      fragment := fragment.map (percentEncode inFragment ∘ unbroken) }

end CloudClient.Url
