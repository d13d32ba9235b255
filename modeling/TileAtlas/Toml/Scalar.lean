import TileAtlas.Number.Decimal
import TileAtlas.Toml.Value

/-!
Contract: the strings, numbers and dates of a TOML document.

Owns: a reader for each of them.  A reader takes the text that is left, and
returns a value with the rest of the text, or nothing where the text does not
begin with such a value.
-/

namespace TileAtlas.Toml

def isBlank (char : Char) : Bool := char = ' ' || char = '\t'

/-- A character that may stand in comments and, apart from quotes and
backslashes, in strings: no control character but the tab. -/
def isPrintable (char : Char) : Bool :=
  char = '\t' || (0x20 ≤ char.toNat && char.toNat ≠ 0x7F)

def skipBlanks (text : List Char) : List Char := text.dropWhile isBlank

def lineEnd? : List Char → Option (List Char)
  | '\n' :: rest => some rest
  | '\r' :: '\n' :: rest => some rest
  | _ => none

def hexValue? (digits : List Char) : Option Nat :=
  digits.foldlM
    (fun value digit =>
      if digit.isDigit then some (16 * value + (digit.toNat - '0'.toNat))
      else if 'a' ≤ digit ∧ digit ≤ 'f' then some (16 * value + (digit.toNat - 'a'.toNat + 10))
      else if 'A' ≤ digit ∧ digit ≤ 'F' then some (16 * value + (digit.toNat - 'A'.toNat + 10))
      else none)
    0

/-- The character of a code point in hexadecimal digits. -/
def codePoint? (digits : List Char) : Option Char := do
  let code ← hexValue? digits
  if code.isValidChar then some (Char.ofNat code) else none

def shortEscape? : Char → Option Char
  | 'b' => some (Char.ofNat 0x08)
  | 't' => some '\t'
  | 'n' => some '\n'
  | 'f' => some (Char.ofNat 0x0C)
  | 'r' => some '\r'
  | '"' => some '"'
  | '\\' => some '\\'
  | _ => none

/-- Put a character in front of what is read next. -/
def consChar (char : Char) (reading : Option (List Char × List Char)) :
    Option (List Char × List Char) :=
  reading.map fun result => (char :: result.1, result.2)

/-- Read a string between double quotes, from after the first one. -/
def basicBody : List Char → Option (List Char × List Char)
  | [] => none
  | '"' :: rest => some ([], rest)
  | '\\' :: 'u' :: a :: b :: c :: d :: rest =>
      match codePoint? [a, b, c, d] with
      | some char => consChar char (basicBody rest)
      | none => none
  | '\\' :: 'U' :: a :: b :: c :: d :: e :: f :: g :: h :: rest =>
      match codePoint? [a, b, c, d, e, f, g, h] with
      | some char => consChar char (basicBody rest)
      | none => none
  | '\\' :: mark :: rest =>
      match shortEscape? mark with
      | some char => consChar char (basicBody rest)
      | none => none
  | char :: rest => if isPrintable char ∧ char ≠ '\\' then consChar char (basicBody rest) else none

/-- Whether a backslash before this text ends its line. -/
def endsLine (text : List Char) : Bool := (lineEnd? (skipBlanks text)).isSome

/-- Read a string between three double quotes, from after the first three.
After a backslash at the end of a line, blanks and line ends are skipped. -/
def longBasicBody (skipping : Bool) : List Char → Option (List Char × List Char)
  | [] => none
  | '"' :: '"' :: '"' :: '"' :: '"' :: rest => some (['"', '"'], rest)
  | '"' :: '"' :: '"' :: '"' :: rest => some (['"'], rest)
  | '"' :: '"' :: '"' :: rest => some ([], rest)
  | '\n' :: rest =>
      if skipping then longBasicBody true rest else consChar '\n' (longBasicBody false rest)
  | '\r' :: '\n' :: rest =>
      if skipping then longBasicBody true rest else consChar '\n' (longBasicBody false rest)
  | '\\' :: 'u' :: a :: b :: c :: d :: rest =>
      match codePoint? [a, b, c, d] with
      | some char => consChar char (longBasicBody false rest)
      | none => none
  | '\\' :: 'U' :: a :: b :: c :: d :: e :: f :: g :: h :: rest =>
      match codePoint? [a, b, c, d, e, f, g, h] with
      | some char => consChar char (longBasicBody false rest)
      | none => none
  | '\\' :: '\\' :: rest => consChar '\\' (longBasicBody false rest)
  | '\\' :: '"' :: rest => consChar '"' (longBasicBody false rest)
  | '\\' :: rest =>
      if endsLine rest then longBasicBody true rest
      else
        match rest with
        | mark :: rest =>
            match shortEscape? mark with
            | some char => consChar char (longBasicBody false rest)
            | none => none
        | [] => none
  | char :: rest =>
      if skipping ∧ isBlank char then longBasicBody true rest
      else if isPrintable char then consChar char (longBasicBody false rest)
      else none

/-- Read a string between single quotes, from after the first one. -/
def literalBody : List Char → Option (List Char × List Char)
  | [] => none
  | '\'' :: rest => some ([], rest)
  | char :: rest => if isPrintable char then consChar char (literalBody rest) else none

/-- Read a string between three single quotes, from after the first three. -/
def longLiteralBody : List Char → Option (List Char × List Char)
  | [] => none
  | '\'' :: '\'' :: '\'' :: '\'' :: '\'' :: rest => some (['\'', '\''], rest)
  | '\'' :: '\'' :: '\'' :: '\'' :: rest => some (['\''], rest)
  | '\'' :: '\'' :: '\'' :: rest => some ([], rest)
  | '\n' :: rest => consChar '\n' (longLiteralBody rest)
  | '\r' :: '\n' :: rest => consChar '\n' (longLiteralBody rest)
  | char :: rest => if isPrintable char then consChar char (longLiteralBody rest) else none

/-- Skip the line end right after the opening of a long string. -/
def skipFirstLineEnd (text : List Char) : List Char := (lineEnd? text).getD text

def string? : List Char → Option (List Char × List Char)
  | '"' :: '"' :: '"' :: rest => longBasicBody false (skipFirstLineEnd rest)
  | '"' :: rest => basicBody rest
  | '\'' :: '\'' :: '\'' :: rest => longLiteralBody (skipFirstLineEnd rest)
  | '\'' :: rest => literalBody rest
  | _ => none

/-- Split digits off, between which single underscores may stand. -/
def digitRun (isDigit : Char → Bool) : List Char → List Char × List Char
  | '_' :: digit :: rest =>
      if isDigit digit then
        let (digits, left) := digitRun isDigit rest
        (digit :: digits, left)
      else ([], '_' :: digit :: rest)
  | digit :: rest =>
      if isDigit digit then
        let (digits, left) := digitRun isDigit rest
        (digit :: digits, left)
      else ([], digit :: rest)
  | [] => ([], [])

/-- Read digits of which the first one is no underscore. -/
def digits? (isDigit : Char → Bool) (text : List Char) : Option (List Char × List Char) :=
  match text with
  | '_' :: _ => none
  | _ =>
      match digitRun isDigit text with
      | ([], _) => none
      | found => some found

/-- Read the digits of a decimal integer: a leading zero stands alone. -/
def decimalDigits? : List Char → Option (List Char × List Char)
  | '0' :: rest => some (['0'], rest)
  | text => digits? Char.isDigit text

def exponent? : List Char → Option (Int × List Char)
  | mark :: rest =>
      if mark = 'e' ∨ mark = 'E' then
        let (negative, body) := Decimal.splitSign rest
        (digits? Char.isDigit body).map fun (digits, left) =>
          let value : Int := Decimal.valueOfDigits digits
          (if negative then -value else value, left)
      else none
  | [] => none

/-- A float, unless it is positive and too large. -/
def boundedFloat? (numeral : Decimal) : Option Float :=
  let value := numeral.toFloat
  if value.isInf ∧ 0.0 < value then none else some value

/-- Read a float that is written with a point or an exponent. -/
def plainFloat? (text : List Char) : Option (Float × List Char) := do
  let (negative, body) := Decimal.splitSign text
  let (whole, afterWhole) ← decimalDigits? body
  let (fraction, exponent, rest) ←
    match afterWhole with
    | '.' :: afterPoint => do
        let (fraction, afterFraction) ← digits? Char.isDigit afterPoint
        match exponent? afterFraction with
        | some (exponent, rest) => some (fraction, exponent, rest)
        | none => some (fraction, 0, afterFraction)
    | afterWhole => (exponent? afterWhole).map fun (exponent, rest) => ([], exponent, rest)
  let value ← boundedFloat?
    ⟨negative, Decimal.valueOfDigits (whole ++ fraction), exponent - fraction.length⟩
  return (value, rest)

def namedFloat? (text : List Char) : Option (Float × List Char) :=
  let (negative, body) := Decimal.splitSign text
  match body with
  | 'i' :: 'n' :: 'f' :: rest => some (if negative then -1.0 / 0.0 else 1.0 / 0.0, rest)
  | 'n' :: 'a' :: 'n' :: rest => some (0.0 / 0.0, rest)
  | _ => none

def float? (text : List Char) : Option (Float × List Char) :=
  (plainFloat? text).orElse fun _ => namedFloat? text

def isHexDigit (char : Char) : Bool :=
  char.isDigit || ('a' ≤ char && char ≤ 'f') || ('A' ≤ char && char ≤ 'F')

def isOctalDigit (char : Char) : Bool := '0' ≤ char && char ≤ '7'

def isBinaryDigit (char : Char) : Bool := char = '0' || char = '1'

/-- The number of a row of digits to a base up to ten. -/
def valueToBase (base : Nat) (digits : List Char) : Nat :=
  digits.foldl (fun value digit => base * value + (digit.toNat - '0'.toNat)) 0

def bounded? (value : Int) : Option Int :=
  if int64Min ≤ value ∧ value ≤ int64Max then some value else none

/-- Read an integer: decimal with a sign, or to another base without one. -/
def integer? (text : List Char) : Option (Int × List Char) :=
  match text with
  | '0' :: 'x' :: rest => do
      let (digits, rest) ← digits? isHexDigit rest
      return (← bounded? (← hexValue? digits), rest)
  | '0' :: 'o' :: rest => do
      let (digits, rest) ← digits? isOctalDigit rest
      return (← bounded? (valueToBase 8 digits), rest)
  | '0' :: 'b' :: rest => do
      let (digits, rest) ← digits? isBinaryDigit rest
      return (← bounded? (valueToBase 2 digits), rest)
  | _ => do
      let (negative, body) := Decimal.splitSign text
      let (digits, rest) ← decimalDigits? body
      let value : Int := Decimal.valueOfDigits digits
      return (← bounded? (if negative then -value else value), rest)

def twoDigits? (least greatest : Nat) : List Char → Option (Nat × List Char)
  | tens :: ones :: rest =>
      if tens.isDigit ∧ ones.isDigit then
        let value := Decimal.valueOfDigits [tens, ones]
        if least ≤ value ∧ value ≤ greatest then some (value, rest) else none
      else none
  | _ => none

def fourDigits? : List Char → Option (Nat × List Char)
  | a :: b :: c :: d :: rest =>
      if [a, b, c, d].all Char.isDigit then some (Decimal.valueOfDigits [a, b, c, d], rest)
      else none
  | _ => none

def mark? (mark : Char) : List Char → Option (List Char)
  | char :: rest => if char = mark then some rest else none
  | [] => none

def daysOfMonth (year month : Nat) : Nat :=
  if month = 2 then
    if year % 4 = 0 ∧ (year % 100 ≠ 0 ∨ year % 400 = 0) then 29 else 28
  else if month = 4 ∨ month = 6 ∨ month = 9 ∨ month = 11 then 30
  else 31

def skipDate? (text : List Char) : Option (List Char) := do
  let (year, rest) ← fourDigits? text
  let (month, rest) ← twoDigits? 1 12 (← mark? '-' rest)
  let (_, rest) ← twoDigits? 1 (daysOfMonth year month) (← mark? '-' rest)
  return rest

/-- Skip a fraction of a second, if one follows. -/
def skipFraction : List Char → List Char
  | '.' :: digit :: rest =>
      if digit.isDigit then rest.dropWhile Char.isDigit else '.' :: digit :: rest
  | text => text

def skipTime? (text : List Char) : Option (List Char) := do
  let (_, rest) ← twoDigits? 0 23 text
  let (_, rest) ← twoDigits? 0 59 (← mark? ':' rest)
  let (_, rest) ← twoDigits? 0 60 (← mark? ':' rest)
  return skipFraction rest

def skipOffset? : List Char → Option (List Char)
  | mark :: rest =>
      if mark = 'Z' ∨ mark = 'z' then some rest
      else if mark = '+' ∨ mark = '-' then do
        let (_, rest) ← twoDigits? 0 23 rest
        let (_, rest) ← twoDigits? 0 59 (← mark? ':' rest)
        return rest
      else none
  | [] => none

/-- Skip a time after a date, with its distance if one follows. -/
def skipTimeOfDate? : List Char → Option (List Char)
  | mark :: rest =>
      if mark = 'T' ∨ mark = 't' ∨ mark = ' ' then
        (skipTime? rest).map fun rest => (skipOffset? rest).getD rest
      else none
  | [] => none

def skipDateTime? (text : List Char) : Option (List Char) :=
  match skipDate? text with
  | some rest => some ((skipTimeOfDate? rest).getD rest)
  | none => skipTime? text

def number? (text : List Char) : Option (TomlValue × List Char) :=
  match skipDateTime? text with
  | some rest => some (.dateTime, rest)
  | none =>
      match float? text with
      | some (value, rest) => some (.float value, rest)
      | none => (integer? text).map fun (value, rest) => (.integer value, rest)

end TileAtlas.Toml
