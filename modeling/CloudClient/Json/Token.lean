import CloudClient.Json.Numeral
/-! Tokens of a JSON text. The text is read one character at a time in a `Mode`; where it stops
being JSON the tokens end with `fault`, so what stands before a fault can still be used. -/
namespace CloudClient.Json

inductive Token
  | openObject
  | closeObject
  | openArray
  | closeArray
  | comma
  | colon
  | null
  | bool (b : Bool)
  | number (n : Option Number)
  | string (s : Option String)
  | fault
  deriving DecidableEq, Repr

inductive Piece
  | char (c : Char)
  | unit (n : Nat)
  deriving DecidableEq, Repr

namespace Piece

def isHigh (n : Nat) : Bool := 0xD800 ≤ n && n < 0xDC00

def isLow (n : Nat) : Bool := 0xDC00 ≤ n && n < 0xE000

def pair (high low : Nat) : Char := Char.ofNat (0x10000 + (high - 0xD800) * 0x400 + (low - 0xDC00))

def assemble : List Piece → Option (List Char)
  | [] => some []
  | .char c :: rest => (assemble rest).map (c :: ·)
  | .unit n :: .unit m :: rest =>
    if isHigh n then
      if isLow m then (assemble rest).map (pair n m :: ·) else none
    else if isLow n then none
    else (assemble (.unit m :: rest)).map (Char.ofNat n :: ·)
  | .unit n :: rest =>
    if isHigh n || isLow n then none else (assemble rest).map (Char.ofNat n :: ·)

end Piece

inductive NumeralPhase
  | sign
  | zero
  | whole
  | point
  | fraction
  | mark
  | exponentSign
  | exponent
  deriving DecidableEq, Repr

inductive Mode
  | ground
  | word (next : Char) (rest : List Char) (token : Token)
  | quoted (pieces : List Piece)
  | escape (pieces : List Piece)
  | hex (pieces : List Piece) (missing value : Nat)
  | numeral (phase : NumeralPhase) (n : Numeral)
  deriving DecidableEq, Repr

def isDigit (c : Char) : Bool := '0' ≤ c && c ≤ '9'

def digitValue (c : Char) : Nat := c.toNat - '0'.toNat

def hexValue? (c : Char) : Option Nat :=
  if isDigit c then some (digitValue c)
  else if 'a' ≤ c && c ≤ 'f' then some (c.toNat - 'a'.toNat + 10)
  else if 'A' ≤ c && c ≤ 'F' then some (c.toNat - 'A'.toNat + 10)
  else none

def isSpace (c : Char) : Bool := c == ' ' || c == '\t' || c == '\n' || c == '\r'

def unescape? : Char → Option Char
  | '"' => some '"'
  | '\\' => some '\\'
  | '/' => some '/'
  | 'b' => some '\x08'
  | 'f' => some '\x0c'
  | 'n' => some '\n'
  | 'r' => some '\r'
  | 't' => some '\t'
  | _ => none

namespace NumeralPhase

def complete : NumeralPhase → Bool
  | zero | whole | fraction | exponent => true
  | sign | point | mark | exponentSign => false

end NumeralPhase

inductive NumeralStep
  | goOn (phase : NumeralPhase) (n : Numeral)
  | ended
  | refused

def Numeral.start (negative : Bool) : Numeral := ⟨negative, [], [], none⟩

def Numeral.addExponentDigit (n : Numeral) (d : Nat) : Numeral :=
  match n.exponent with
  | some (down, digits) => { n with exponent := some (down, digits ++ [d]) }
  | none => n

def Numeral.step (phase : NumeralPhase) (n : Numeral) (c : Char) : NumeralStep :=
  let d := digitValue c
  if isDigit c then
    match phase with
    | .sign => .goOn (if d = 0 then .zero else .whole) { n with whole := [d] }
    | .zero => .refused
    | .whole => .goOn .whole { n with whole := n.whole ++ [d] }
    | .point | .fraction => .goOn .fraction { n with fraction := n.fraction ++ [d] }
    | .mark | .exponentSign | .exponent => .goOn .exponent (n.addExponentDigit d)
  else if c == '.' && (phase == .zero || phase == .whole) then .goOn .point n
  else if (c == 'e' || c == 'E') && (phase == .zero || phase == .whole || phase == .fraction) then
    .goOn .mark { n with exponent := some (false, []) }
  else if (c == '+' || c == '-') && phase == .mark then
    .goOn .exponentSign { n with exponent := some (c == '-', []) }
  else if phase.complete then .ended
  else .refused

namespace Mode

abbrev Step := List Token × Option Mode

def broken : Step := ([.fault], none)

def ofGround (c : Char) : Step :=
  if isSpace c then ([], some ground)
  else if isDigit c then
    match (Numeral.start false).step .sign c with
    | .goOn phase n => ([], some (numeral phase n))
    | _ => broken
  else match c with
    | '\x7b' => ([.openObject], some ground)
    | '\x7d' => ([.closeObject], some ground)
    | '[' => ([.openArray], some ground)
    | ']' => ([.closeArray], some ground)
    | ',' => ([.comma], some ground)
    | ':' => ([.colon], some ground)
    | '"' => ([], some (quoted []))
    | '-' => ([], some (numeral .sign (Numeral.start true)))
    | 'n' => ([], some (word 'u' ['l', 'l'] .null))
    | 't' => ([], some (word 'r' ['u', 'e'] (.bool true)))
    | 'f' => ([], some (word 'a' ['l', 's', 'e'] (.bool false)))
    | _ => broken

def closeQuote (pieces : List Piece) : Token :=
  .string ((Piece.assemble pieces.reverse).map String.ofList)

def step : Mode → Char → Step
  | ground, c => ofGround c
  | word next rest token, c =>
    if c = next then
      match rest with
      | [] => ([token], some ground)
      | following :: rest => ([], some (word following rest token))
    else broken
  | quoted pieces, c =>
    if c == '"' then ([closeQuote pieces], some ground)
    else if c == '\\' then ([], some (escape pieces))
    else if c.toNat < 0x20 then broken
    else ([], some (quoted (.char c :: pieces)))
  | escape pieces, c =>
    if c == 'u' then ([], some (hex pieces 4 0))
    else match unescape? c with
      | some d => ([], some (quoted (.char d :: pieces)))
      | none => broken
  | hex pieces missing value, c =>
    match hexValue? c with
    | none => broken
    | some d =>
      let value := value * 16 + d
      if missing ≤ 1 then ([], some (quoted (.unit value :: pieces)))
      else ([], some (hex pieces (missing - 1) value))
  | numeral phase n, c =>
    match n.step phase c with
    | .goOn phase n => ([], some (numeral phase n))
    | .ended =>
      let next := ofGround c
      (.number n.value :: next.1, next.2)
    | .refused => broken

def finish : Mode → List Token
  | ground => []
  | numeral phase n => if phase.complete then [.number n.value] else [.fault]
  | _ => [.fault]

end Mode

def tokensFrom : Mode → List Char → List Token
  | mode, [] => mode.finish
  | mode, c :: rest =>
    match mode.step c with
    | (tokens, none) => tokens
    | (tokens, some next) => tokens ++ tokensFrom next rest

def tokens (text : String) : List Token := tokensFrom .ground text.toList

end CloudClient.Json
