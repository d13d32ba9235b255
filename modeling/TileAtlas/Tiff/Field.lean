import TileAtlas.Error
import TileAtlas.Raster.Bytes

/-!
Contract: the numbers, texts and fields of a TIFF file.

Owns:
- `ByteOrder` and `TiffFile`, the file with its byte order and word size;
- `FieldType` and `Field`, one directory entry and where its values lie;
- the readings of a field as unsigned numbers, as bytes, as doubles or as text.

The values of a field are looked at only when it is read, so a broken field
that nobody asks for does no harm.  A field without values is an empty list,
whatever its type.
-/

namespace TileAtlas

/-- The order of the bytes of a number. -/
inductive ByteOrder where
  | little
  | big
deriving DecidableEq, Repr

def ByteOrder.number : ByteOrder → List UInt8 → Nat
  | .little => Bytes.little
  | .big => Bytes.big

/-- A file whose header has been read. -/
structure TiffFile where
  content : ByteArray
  order : ByteOrder
  /-- Offsets and counts are 64-bit words. -/
  wide : Bool

namespace TiffFile

def number (file : TiffFile) (place count : Nat) : Except ImageFault Nat :=
  match Bytes.slice? file.content place count with
  | some row => .ok (file.order.number row)
  | none => .error .truncated

/-- The bytes of an offset or of a count of values. -/
def wordSize (file : TiffFile) : Nat := if file.wide then 8 else 4

/-- The bytes of the number of fields in a directory. -/
def countSize (file : TiffFile) : Nat := if file.wide then 8 else 2

end TiffFile

/-- The type of the values of a field. -/
inductive FieldType where
  | byte
  | ascii
  | short
  | long
  | rational
  | signedByte
  | undefined
  | signedShort
  | signedLong
  | signedRational
  | float
  | double
  | offset
  | long8
  | signedLong8
  | offset8
deriving DecidableEq, Repr

namespace FieldType

/-- The type of a code; other codes are skipped by readers. -/
def ofCode? : Nat → Option FieldType
  | 1 => some .byte
  | 2 => some .ascii
  | 3 => some .short
  | 4 => some .long
  | 5 => some .rational
  | 6 => some .signedByte
  | 7 => some .undefined
  | 8 => some .signedShort
  | 9 => some .signedLong
  | 10 => some .signedRational
  | 11 => some .float
  | 12 => some .double
  | 13 => some .offset
  | 16 => some .long8
  | 17 => some .signedLong8
  | 18 => some .offset8
  | _ => none

def size : FieldType → Nat
  | .byte | .ascii | .signedByte | .undefined => 1
  | .short | .signedShort => 2
  | .long | .signedLong | .float | .offset => 4
  | .rational | .signedRational | .double | .long8 | .signedLong8 | .offset8 => 8

def isCount : FieldType → Bool
  | .byte | .undefined | .short | .long | .long8 => true
  | _ => false

/-- The values are unsigned numbers or places in the file. -/
def isWord (type : FieldType) : Bool := type.isCount || type = .offset || type = .offset8

end FieldType

/-- One directory entry. -/
structure Field where
  type : FieldType
  count : Nat
  /-- Where the values lie. -/
  place : Nat
  /-- The values lie in the entry itself. -/
  isInline : Bool
deriving DecidableEq, Repr

namespace Field

/-- The largest field that is read. -/
def largestValue : Nat := 2 ^ 20

def rows (file : TiffFile) (field : Field) : Except ImageFault (List (List UInt8)) :=
  if largestValue < field.count * field.type.size then .error .unsupported
  else
    (List.range field.count).mapM fun index =>
      match Bytes.slice? file.content (field.place + index * field.type.size) field.type.size with
      | some row => .ok row
      | none => .error .truncated

/-- The characters of a text that lies in its entry: ASCII with a NUL at the
end.  The NULs at both ends do not count. -/
def inlineText? (bytes : List UInt8) : Option (List UInt8) :=
  if bytes.getLast? = some 0 ∧ bytes.all (· < 128) then
    if bytes.length = 1 then some []
    else some ((bytes.dropWhile (· = 0)).reverse.dropWhile (· = 0)).reverse
  else none

/-- The characters of the values as a text.  A text outside its entry ends at
the first NUL or with the field. -/
def textBytes (file : TiffFile) (tag : Nat) (field : Field) : Except ImageFault (List UInt8) := do
  let bytes := (← field.rows file).flatten
  if field.isInline then
    match inlineText? bytes with
    | some inner => return inner
    | none => throw (.tagValue tag)
  else return bytes.takeWhile (· ≠ 0)

def text (file : TiffFile) (tag : Nat) (field : Field) : Except ImageFault String := do
  if field.type = .ascii ∧ field.count ≠ 0 then
    match String.fromUTF8? (Bytes.ofList (← field.textBytes file tag)) with
    | some text => return text
    | none => throw (.tagValue tag)
  else throw (.tagValue tag)

/-- The values as unsigned numbers or places.  A text counts as its characters,
and a single fraction as its two terms. -/
def words (file : TiffFile) (tag : Nat) (field : Field) : Except ImageFault (List Nat) := do
  if field.count = 0 then return []
  else if field.type.isWord then return (← field.rows file).map file.order.number
  else if field.type = .ascii then return (← field.text file tag).toList.map Char.toNat
  else if field.type = .rational ∧ field.count = 1 then
    let row := (← field.rows file).flatten
    return [file.order.number (row.take 4), file.order.number (row.drop 4)]
  else throw (.tagValue tag)

def single (bound : Nat) (file : TiffFile) (tag : Nat) (field : Field) :
    Except ImageFault Nat := do
  match ← field.rows file with
  | [row] =>
      let number := file.order.number row
      if number ≤ bound then return number else throw (.tagValue tag)
  | _ => throw (.tagValue tag)

def short (file : TiffFile) (tag : Nat) (field : Field) : Except ImageFault Nat :=
  if field.type.isCount then field.single (2 ^ 16 - 1) file tag else .error (.tagValue tag)

/-- The only value as a 32-bit number, which may also be stored as a place. -/
def long (file : TiffFile) (tag : Nat) (field : Field) : Except ImageFault Nat :=
  if field.type.isWord then field.single (2 ^ 32 - 1) file tag else .error (.tagValue tag)

/-- Whether the values are bytes.  Several numbers that lie in their entry are
not, unless their type leaves them undefined. -/
def holdsOctets (field : Field) : Bool :=
  field.type = .undefined || (field.type = .byte && (!field.isInline || field.count = 1))

def octets (file : TiffFile) (tag : Nat) (field : Field) : Except ImageFault (List UInt8) := do
  if field.count = 0 then return []
  else if field.holdsOctets then return (← field.rows file).flatten
  else throw (.tagValue tag)

/-- The values as 16-bit numbers.  A single value has to be stored as one;
several may be stored in wider words. -/
def shorts (file : TiffFile) (tag : Nat) (field : Field) : Except ImageFault (List Nat) := do
  if field.count = 0 then return []
  else if ¬field.type.isCount ∨ field.count = 1 ∧ 2 < field.type.size then throw (.tagValue tag)
  else
    let numbers := (← field.rows file).map file.order.number
    if numbers.all (· < 2 ^ 16) then return numbers else throw (.tagValue tag)

def doubles (file : TiffFile) (tag : Nat) (field : Field) : Except ImageFault (List Float) := do
  if field.count = 0 then return []
  else if field.type = .double then
    return (← field.rows file).map fun row => Float.ofBits (UInt64.ofNat (file.order.number row))
  else throw (.tagValue tag)

end Field

end TileAtlas
