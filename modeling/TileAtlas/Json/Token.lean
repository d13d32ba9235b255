import TileAtlas.Json.Number
import TileAtlas.Json.Text

/-!
Contract: the tokens of a JSON document.

Owns:
- `Token`, a mark, a word, a numeral or a string;
- `Token.scan`, from bytes to tokens, one byte per step.

Blanks are the space, the tab and the two line ends.  A string token may denote
no text, and then only says so.
-/

namespace TileAtlas.Json

/-- A token. -/
inductive Token where
  | openBrace
  | closeBrace
  | openBracket
  | closeBracket
  | comma
  | colon
  | null
  | bool (value : Bool)
  | numeral (numeral : Numeral)
  /-- A string with its text, if it has one. -/
  | text (content : Option String)
deriving DecidableEq, Repr

/-- What the scanner is in the middle of; collected parts are reversed. -/
inductive ScanMode where
  | between
  | inText (body : List UInt8)
  | afterBackslash (body : List UInt8)
  | inNumeral (digits : List Char)
  | inWord (letters : List Char)
deriving DecidableEq, Repr

/-- A scan in progress; the tokens are reversed. -/
structure Scan where
  mode : ScanMode
  tokens : List Token
deriving DecidableEq, Repr

namespace Scan

def start : Scan := ⟨.between, []⟩

def isBlankByte (byte : UInt8) : Bool := byte = 0x20 || byte = 0x09 || byte = 0x0A || byte = 0x0D

def markToken? (byte : UInt8) : Option Token :=
  if byte = 0x7B then some .openBrace
  else if byte = 0x7D then some .closeBrace
  else if byte = 0x5B then some .openBracket
  else if byte = 0x5D then some .closeBracket
  else if byte = 0x2C then some .comma
  else if byte = 0x3A then some .colon
  else none

def wordToken? (letters : List Char) : Option Token :=
  if letters = "null".toList then some .null
  else if letters = "true".toList then some (.bool true)
  else if letters = "false".toList then some (.bool false)
  else none

def charOf (byte : UInt8) : Char := Char.ofNat byte.toNat

/-- A byte that belongs to a numeral once one has begun. -/
def isNumeralByte (byte : UInt8) : Bool :=
  let char := charOf byte
  char.isDigit || char = '.' || char = '-' || char = '+' || char = 'e' || char = 'E'

def isWordByte (byte : UInt8) : Bool := (charOf byte).isLower

def flush (scan : Scan) : Option Scan :=
  match scan.mode with
  | .between => some scan
  | .inText _ | .afterBackslash _ => none
  | .inNumeral digits =>
      (Numeral.read? digits.reverse).map fun numeral => ⟨.between, .numeral numeral :: scan.tokens⟩
  | .inWord letters =>
      (wordToken? letters.reverse).map fun token => ⟨.between, token :: scan.tokens⟩

def begin (scan : Scan) (byte : UInt8) : Option Scan :=
  if isBlankByte byte then some scan
  else if byte = 0x22 then some { scan with mode := .inText [] }
  else if (charOf byte).isDigit ∨ byte = 0x2D then
    some { scan with mode := .inNumeral [charOf byte] }
  else if isWordByte byte then some { scan with mode := .inWord [charOf byte] }
  else (markToken? byte).map fun token => { scan with tokens := token :: scan.tokens }

def closeText (scan : Scan) (body : List UInt8) : Option Scan :=
  if isEscaped body.reverse then
    some ⟨.between, .text (unescape? body.reverse) :: scan.tokens⟩
  else none

def step (scan : Scan) (byte : UInt8) : Option Scan :=
  match scan.mode with
  | .between => scan.begin byte
  | .inText body =>
      if byte = 0x22 then scan.closeText body
      else if byte = 0x5C then some { scan with mode := .afterBackslash (byte :: body) }
      else if byte < 0x20 then none
      else some { scan with mode := .inText (byte :: body) }
  | .afterBackslash body =>
      if byte < 0x20 then none else some { scan with mode := .inText (byte :: body) }
  | .inNumeral digits =>
      if isNumeralByte byte then some { scan with mode := .inNumeral (charOf byte :: digits) }
      else do (← scan.flush).begin byte
  | .inWord letters =>
      if isWordByte byte then some { scan with mode := .inWord (charOf byte :: letters) }
      else do (← scan.flush).begin byte

end Scan

def Token.scan (bytes : List UInt8) : Option (List Token) := do
  let finished ← (← bytes.foldlM Scan.step .start).flush
  return finished.tokens.reverse

end TileAtlas.Json
