import TileAtlas.Toml.Scalar

/-!
Contract: whole TOML documents.

Owns:
- `Toml.value?`, values with their arrays and inline tables;
- `Toml.key?`, dotted keys;
- `TomlValue.ofDocument?`, from the text of a document to its members.

Arrays and inline tables may be nested 79 levels deep, and keys may have 79
parts.  Loops carry the length of the text as a bound that they cannot reach.
-/

namespace TileAtlas.Toml

open TomlValue (Members)

/-- How deep values may be nested. -/
def deepest : Nat := 79

def skipLines (inComment : Bool) : List Char → List Char
  | [] => []
  | '\n' :: rest => skipLines false rest
  | '\r' :: '\n' :: rest => skipLines false rest
  | char :: rest =>
      if inComment then
        if isPrintable char then skipLines true rest else char :: rest
      else if isBlank char then skipLines false rest
      else if char = '#' then skipLines true rest
      else char :: rest

/-- Finish a line: blanks, perhaps a comment, and the line end or the end of the
text. -/
def finishLine? (text : List Char) : Option (List Char) :=
  let afterBlanks := skipBlanks text
  let afterComment := match afterBlanks with
    | '#' :: rest => rest.dropWhile isPrintable
    | rest => rest
  match afterComment with
  | [] => some []
  | rest => lineEnd? rest

def isBare (char : Char) : Bool := char.isAlphanum || char = '_' || char = '-'

def keyPart? (text : List Char) : Option (String × List Char) :=
  match text with
  | '"' :: rest => (basicBody rest).map fun (name, rest) => (String.ofList name, rest)
  | '\'' :: rest => (literalBody rest).map fun (name, rest) => (String.ofList name, rest)
  | _ =>
      let (name, rest) := text.span isBare
      if name = [] then none else some (String.ofList name, rest)

/-- Read parts between dots, with blanks around them. -/
def keyParts? : Nat → List Char → Option (List String × List Char)
  | 0, _ => none
  | bound + 1, text => do
      let (name, rest) ← keyPart? (skipBlanks text)
      match skipBlanks rest with
      | '.' :: rest => do
          let (names, rest) ← keyParts? bound rest
          return (name :: names, rest)
      | rest => return ([name], rest)

def key? (text : List Char) : Option (List String × List Char) := do
  let (names, rest) ← keyParts? (text.length + 1) text
  if names.length ≤ deepest then return (names, rest) else none

/-- Read the items of an array from after its bracket or after a comma. -/
def items? (value : List Char → Option (TomlValue × List Char)) :
    Nat → List Char → Option (List TomlValue × List Char)
  | 0, _ => none
  | bound + 1, text =>
      match skipLines false text with
      | ']' :: rest => some ([], rest)
      | text => do
          let (item, rest) ← value text
          match skipLines false rest with
          | ',' :: rest => do
              let (items, rest) ← items? value bound rest
              return (item :: items, rest)
          | ']' :: rest => return ([item], rest)
          | _ => none

/-- Read the pairs of an inline table, at least one. -/
def pairs? (value : List Char → Option (TomlValue × List Char)) (members : Members) :
    Nat → List Char → Option (Members × List Char)
  | 0, _ => none
  | bound + 1, text => do
      let (path, rest) ← key? text
      let rest ← mark? '=' rest
      let (item, rest) ← value (skipBlanks rest)
      let extended ← TomlValue.addValue .inline members path item
      match skipBlanks rest with
      | ',' :: rest => pairs? value extended bound rest
      | '\x7d' :: rest => return (extended, rest)
      | _ => none

def value? : Nat → List Char → Option (TomlValue × List Char)
  | _, 't' :: 'r' :: 'u' :: 'e' :: rest => some (.bool true, rest)
  | _, 'f' :: 'a' :: 'l' :: 's' :: 'e' :: rest => some (.bool false, rest)
  | 0, '[' :: _ => none
  | 0, '\x7b' :: _ => none
  | depth + 1, '[' :: rest =>
      (items? (value? depth) (rest.length + 1) rest).map fun (items, rest) => (.array items, rest)
  | depth + 1, '\x7b' :: rest =>
      match skipBlanks rest with
      | '\x7d' :: rest => some (.table .inline [], rest)
      | body =>
          (pairs? (value? depth) [] (body.length + 1) body).map fun (members, rest) =>
            (.table .inline members, rest)
  | _, text =>
      match text with
      | '"' :: _ | '\'' :: _ =>
          (string? text).map fun (content, rest) => (.text (String.ofList content), rest)
      | _ => number? text

/-- A document that is being read: all members, and the path of the header that
further pairs belong under. -/
structure Reading where
  root : Members
  path : List String

def pairLine? (reading : Reading) (text : List Char) : Option (Reading × List Char) := do
  let (path, rest) ← key? text
  let rest ← mark? '=' rest
  let (value, rest) ← value? deepest (skipBlanks rest)
  let rest ← finishLine? rest
  let root ← TomlValue.changeAt false .opened reading.root reading.path fun kind members =>
    TomlValue.addValue kind members path value
  return (⟨root, reading.path⟩, rest)

/-- Read a header, from after its first bracket. -/
def headerLine? (reading : Reading) (text : List Char) : Option (Reading × List Char) :=
  match text with
  | '[' :: rest => do
      let (path, rest) ← key? rest
      let rest ← finishLine? (← mark? ']' (← mark? ']' rest))
      return (⟨← TomlValue.appendTable reading.root path, path⟩, rest)
  | rest => do
      let (path, rest) ← key? rest
      let rest ← finishLine? (← mark? ']' rest)
      return (⟨← TomlValue.openTable reading.root path, path⟩, rest)

def lines? (reading : Reading) : Nat → List Char → Option Reading
  | 0, _ => none
  | bound + 1, text =>
      match skipBlanks text with
      | [] => some reading
      | '#' :: rest => do lines? reading bound (← finishLine? ('#' :: rest))
      | '[' :: rest => do
          let (next, rest) ← headerLine? reading rest
          lines? next bound rest
      | text =>
          match lineEnd? text with
          | some rest => lines? reading bound rest
          | none => do
              let (next, rest) ← pairLine? reading text
              lines? next bound rest

def skipOrderMark : List Char → List Char
  | char :: rest => if char.toNat = 0xFEFF then rest else char :: rest
  | [] => []

end TileAtlas.Toml

namespace TileAtlas

def TomlValue.ofDocument? (text : String) : Option TomlValue.Members := do
  let body := Toml.skipOrderMark text.toList
  return (← Toml.lines? ⟨[], []⟩ (body.length + 1) body).root

end TileAtlas
