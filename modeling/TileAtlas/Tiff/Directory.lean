import TileAtlas.Tiff.Field

/-!
Contract: the first directory of a TIFF file.

Owns:
- `TiffFile.ofBytes`, the header of both word sizes;
- `Directory`, the fields by their tags, of which the last one counts where a
  tag is repeated;
- readings of a tag that treat a missing field as an absent value.
-/

namespace TileAtlas

namespace TiffFile

def readOrder (content : ByteArray) : Except ImageFault ByteOrder :=
  match Bytes.slice? content 0 2 with
  | some [0x49, 0x49] => .ok .little
  | some [0x4D, 0x4D] => .ok .big
  | some _ => .error .notAnImage
  | none => .error .truncated

/-- Read the header; the second part is the place of the first directory. -/
def ofBytes (content : ByteArray) : Except ImageFault (TiffFile × Nat) := do
  let order ← readOrder content
  let narrow : TiffFile := ⟨content, order, false⟩
  let wide : TiffFile := ⟨content, order, true⟩
  let version ← narrow.number 2 2
  if version = 42 then
    let place ← narrow.number 4 4
    return (narrow, place)
  else if version = 43 then
    let offsetSize ← wide.number 4 2
    let reserved ← wide.number 6 2
    if offsetSize = 8 ∧ reserved = 0 then
      let place ← wide.number 8 8
      return (wide, place)
    else throw .notAnImage
  else throw .notAnImage

end TiffFile

/-- The fields of an image by their tags. -/
structure Directory where
  file : TiffFile
  fields : List (Nat × Field)

namespace Directory

/-- Read the entry at a place, and where the next one begins.  The values lie in
the entry itself if they fit there.  An entry of unknown type has no field, and
is always as long as an entry of 32-bit words. -/
def readField (file : TiffFile) (place : Nat) : Except ImageFault (Option (Nat × Field) × Nat) := do
  let tag ← file.number place 2
  let code ← file.number (place + 2) 2
  match FieldType.ofCode? code with
  | none =>
      let _ ← file.number (place + 4) 8
      return (none, place + 12)
  | some type =>
      let count ← file.number (place + 4) file.wordSize
      let inlinePlace := place + 4 + file.wordSize
      let target ← file.number inlinePlace file.wordSize
      let isInline : Bool := count * type.size ≤ file.wordSize
      let field : Field := ⟨type, count, if isInline then inlinePlace else target, isInline⟩
      return (some (tag, field), inlinePlace + file.wordSize)

/-- Read `count` entries from a place on, and where they end; later ones come
first in the list. -/
def readFields (file : TiffFile) (place : Nat) :
    Nat → List (Nat × Field) → Except ImageFault (List (Nat × Field) × Nat)
  | 0, found => .ok (found, place)
  | count + 1, found =>
      match readField file place with
      | .error fault => .error fault
      | .ok (none, next) => readFields file next count found
      | .ok (some field, next) => readFields file next count (field :: found)

/-- Read the first directory of a file, the link to the next one included.  A
directory that links to itself is refused. -/
def ofBytes (content : ByteArray) : Except ImageFault Directory := do
  let (file, place) ← TiffFile.ofBytes content
  if place = 0 then throw .notAnImage
  let count ← file.number place file.countSize
  let (fields, stop) ← readFields file (place + file.countSize) count []
  let next ← file.number stop file.wordSize
  if next = place then throw .notAnImage
  return ⟨file, fields⟩

def field? (directory : Directory) (tag : Nat) : Option Field := directory.fields.lookup tag

def optional {β : Type} (directory : Directory) (tag : Nat)
    (reading : TiffFile → Nat → Field → Except ImageFault β) : Except ImageFault (Option β) :=
  match directory.field? tag with
  | some field => (reading directory.file tag field).map some
  | none => .ok none

def required {β : Type} (directory : Directory) (tag : Nat)
    (reading : TiffFile → Nat → Field → Except ImageFault β) : Except ImageFault β :=
  match directory.field? tag with
  | some field => reading directory.file tag field
  | none => .error (.missingTag tag)

end Directory

end TileAtlas
