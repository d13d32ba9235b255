import TileAtlas.Raster.Bytes

/-!
Contract: the inside of a JSON string.

Owns:
- `Json.isEscaped`, the bodies that may stand between quotes;
- `Json.unescape?`, the text that a body denotes, if it denotes one;
- `Json.escape`, the body of a text.

A body can be well formed and still denote no text: it may hold half of a
surrogate pair or bytes that are no UTF-8.
-/

namespace TileAtlas.Json

def hexDigit? (byte : UInt8) : Option Nat :=
  if 0x30 ≤ byte ∧ byte ≤ 0x39 then some (byte.toNat - 0x30)
  else if 0x41 ≤ byte ∧ byte ≤ 0x46 then some (byte.toNat - 0x41 + 10)
  else if 0x61 ≤ byte ∧ byte ≤ 0x66 then some (byte.toNat - 0x61 + 10)
  else none

def hexWord? (first second third fourth : UInt8) : Option Nat := do
  return (((← hexDigit? first) * 16 + (← hexDigit? second)) * 16 + (← hexDigit? third)) * 16 +
    (← hexDigit? fourth)

def shortEscape? (mark : UInt8) : Option UInt8 :=
  if mark = 0x22 ∨ mark = 0x5C ∨ mark = 0x2F then some mark
  else if mark = 0x62 then some 0x08
  else if mark = 0x66 then some 0x0C
  else if mark = 0x6E then some 0x0A
  else if mark = 0x72 then some 0x0D
  else if mark = 0x74 then some 0x09
  else none

def isEscaped : List UInt8 → Bool
  | [] => true
  | 0x5C :: 0x75 :: a :: b :: c :: d :: rest => (hexWord? a b c d).isSome && isEscaped rest
  | 0x5C :: mark :: rest => (shortEscape? mark).isSome && isEscaped rest
  | 0x5C :: [] => false
  | _ :: rest => isEscaped rest

def codePointBytes (code : Nat) : List UInt8 :=
  (String.singleton (Char.ofNat code)).toUTF8.data.toList

/-- The bytes that a body denotes.  A surrogate counts only in a pair. -/
def unescapeBytes? : List UInt8 → Option (List UInt8)
  | [] => some []
  | 0x5C :: 0x75 :: a :: b :: c :: d :: rest =>
      match hexWord? a b c d with
      | none => none
      | some code =>
          if code < 0xD800 ∨ 0xDFFF < code then
            (unescapeBytes? rest).map (codePointBytes code ++ ·)
          else if 0xDC00 ≤ code then none
          else
            match rest with
            | 0x5C :: 0x75 :: e :: f :: g :: h :: rest =>
                match hexWord? e f g h with
                | none => none
                | some low =>
                    if low < 0xDC00 ∨ 0xDFFF < low then none
                    else
                      (unescapeBytes? rest).map
                        (codePointBytes (0x10000 + (code - 0xD800) * 0x400 + (low - 0xDC00)) ++ ·)
            | _ => none
  | 0x5C :: mark :: rest =>
      match shortEscape? mark with
      | none => none
      | some byte => (unescapeBytes? rest).map (byte :: ·)
  | 0x5C :: [] => none
  | byte :: rest => (unescapeBytes? rest).map (byte :: ·)

def unescape? (body : List UInt8) : Option String := do
  String.fromUTF8? (Bytes.ofList (← unescapeBytes? body))

def hexPair (code : Nat) : List Char := [Nat.digitChar (code / 16 % 16), Nat.digitChar (code % 16)]

def escapeChar (char : Char) : List Char :=
  if char = '"' then ['\\', '"']
  else if char = '\\' then ['\\', '\\']
  else if char.toNat = 0x08 then ['\\', 'b']
  else if char.toNat = 0x0C then ['\\', 'f']
  else if char = '\n' then ['\\', 'n']
  else if char = '\r' then ['\\', 'r']
  else if char = '\t' then ['\\', 't']
  else if char.toNat < 0x20 then ['\\', 'u', '0', '0'] ++ hexPair char.toNat
  else [char]

/-- The body of a text: quotes, backslashes and control characters are escaped. -/
def escape (text : String) : String := String.ofList (text.toList.flatMap escapeChar)

end TileAtlas.Json
