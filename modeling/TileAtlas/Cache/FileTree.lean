import TileAtlas.Error

/-!
Contract: files and directories by their paths.

Owns:
- `FilePath`, the components of a path as it is written;
- `FileTree`, what stands at each place, the root being a directory;
- `FileTree.locate`, which follows a path through the directories;
- reading, writing, renaming and removing files, and making directories.

A path is followed component by component, so the parent of a missing directory
cannot be reached.  Paths without a leading slash start at the root.  Names and
whole paths have a greatest length.
-/

namespace TileAtlas

/-- What stands at a place. -/
inductive FileEntry where
  | directory
  | file (content : ByteArray)

/-- A component of a path. -/
inductive PathPart where
  | parent
  | child (name : String)
deriving DecidableEq, Repr

/-- Whether a component has a character that no name can hold. -/
def PathPart.isInvalid : PathPart → Bool
  | .parent => false
  | .child name => name.toList.contains (Char.ofNat 0)

/-- A path as it is written. -/
structure FilePath where
  parts : List PathPart
  /-- Something stands in the text. -/
  isGiven : Bool
  /-- The path can only name a directory. -/
  namesDirectory : Bool
  /-- How many bytes the text has. -/
  length : Nat
  /-- How many bytes stand before the last component, without what leads from
  there to it. -/
  parentLength : Nat
deriving DecidableEq, Repr

namespace FilePath

/-- Cut a text at the slashes; `piece` is reversed. -/
def piecesFrom (piece : List Char) : List Char → List (List Char)
  | [] => [piece.reverse]
  | char :: rest =>
      if char = '/' then piece.reverse :: piecesFrom [] rest else piecesFrom (char :: piece) rest

def part? (piece : List Char) : Option PathPart :=
  if piece = [] ∨ piece = ['.'] then none
  else if piece = ['.', '.'] then some .parent
  else some (.child (String.ofList piece))

/-- The pieces up to the last one that is a component. -/
def dropIdle (pieces : List (List Char)) : List (List Char) :=
  (pieces.reverse.dropWhile fun piece => (part? piece).isNone).reverse

/-- How many bytes pieces have with the slashes between them. -/
def lengthOf (pieces : List (List Char)) : Nat :=
  (String.ofList (['/'].intercalate pieces)).utf8ByteSize

def ofText (text : String) : FilePath :=
  let pieces := piecesFrom [] text.toList
  let last := pieces.getLastD []
  { parts := pieces.filterMap part?
    isGiven := text ≠ ""
    namesDirectory := text ≠ "" ∧ (last = [] ∨ last = ['.'] ∨ last = ['.', '.'])
    length := text.utf8ByteSize
    parentLength := lengthOf (dropIdle (dropIdle pieces).dropLast) }

/-- Whether a path has a character that no name can hold. -/
def isInvalid (path : FilePath) : Bool := path.parts.any PathPart.isInvalid

def parent (path : FilePath) : List PathPart := path.parts.dropLast

/-- The name at the end, if the path ends in one. -/
def name? (path : FilePath) : Option String :=
  match path.parts.getLast? with
  | some (.child name) => some name
  | _ => none

/-- Whether the directory of a path has a character that no name can hold. -/
def hasInvalidParent (path : FilePath) : Bool := path.parent.any PathPart.isInvalid

/-- The components with another name at the end. -/
def withName (path : FilePath) (name : String) : List PathPart :=
  match path.name? with
  | some _ => path.parent ++ [.child name]
  | none => path.parts ++ [.child name]

/-- How many bytes the path with another name at the end has. -/
def lengthWithName (path : FilePath) (name : String) : Nat :=
  match path.name? with
  | some _ => path.parentLength + 1 + name.utf8ByteSize
  | none => path.length + 1 + name.utf8ByteSize

end FilePath

/-- What stands at each place except the root. -/
structure FileTree where
  entries : List (List String × FileEntry)

namespace FileTree

def empty : FileTree := ⟨[]⟩

/-- The greatest length of a name in bytes. -/
def longestName : Nat := 255

/-- The greatest length of a path in bytes. -/
def longestPath : Nat := 4095

def found? (tree : FileTree) (place : List String) : Option FileEntry :=
  if place = [] then some .directory else tree.entries.lookup place

def remove (tree : FileTree) (place : List String) : FileTree :=
  ⟨tree.entries.filter fun entry => entry.1 ≠ place⟩

def insert (tree : FileTree) (place : List String) (entry : FileEntry) : FileTree :=
  ⟨(place, entry) :: (tree.remove place).entries⟩

/-- Go to a child of a directory, which need not exist. -/
def child (tree : FileTree) (place : List String) (name : String) :
    Except FileFault (List String) :=
  match tree.found? place with
  | some .directory =>
      if longestName < name.utf8ByteSize then .error .nameTooLong else .ok (place ++ [name])
  | some (.file _) => .error .notADirectory
  | none => .error .notFound

/-- Go one component on.  Where one goes on from, there must be a directory. -/
def follow (tree : FileTree) (place : List String) : PathPart → Except FileFault (List String)
  | .child name => tree.child place name
  | .parent =>
      match tree.found? place with
      | some .directory => .ok place.dropLast
      | some (.file _) => .error .notADirectory
      | none => .error .notFound

def locate (tree : FileTree) (parts : List PathPart) : Except FileFault (List String) :=
  parts.foldlM tree.follow []

def find (tree : FileTree) (path : FilePath) : Except FileFault (List String × FileEntry) :=
  if path.isInvalid then .error .invalidName
  else if ¬path.isGiven then .error .notFound
  else if longestPath < path.length then .error .nameTooLong
  else do
    let place ← tree.locate path.parts
    match tree.found? place with
    | none => throw .notFound
    | some (.file content) =>
        if path.namesDirectory then throw .notADirectory else return (place, .file content)
    | some .directory => return (place, .directory)

def read (tree : FileTree) (path : FilePath) : Except FileFault ByteArray := do
  match ← tree.find path with
  | (_, .file content) => return content
  | (_, .directory) => throw .isADirectory

def removeFile (tree : FileTree) (path : FilePath) : Except FileFault FileTree := do
  match ← tree.find path with
  | (place, .file _) => return tree.remove place
  | (_, .directory) => throw .isADirectory

/-- Make a directory and go there, or go there if it exists. -/
def enter (state : FileTree × List String) :
    PathPart → Except FileFault (FileTree × List String)
  | .parent => (state.1.follow state.2 .parent).map fun place => (state.1, place)
  | .child name => do
      let place ← state.1.child state.2 name
      match state.1.found? place with
      | none => return (state.1.insert place .directory, place)
      | some .directory => return (state.1, place)
      | some (.file _) => throw .notADirectory

/-- Make the directories along components that are missing.  Those made before
a failure stay. -/
def makeDirectories (tree : FileTree) (place : List String) :
    List PathPart → Except FileFault Unit × FileTree
  | [] => (.ok (), tree)
  | part :: rest =>
      match enter (tree, place) part with
      | .ok (next, nextPlace) => makeDirectories next nextPlace rest
      | .error fault => (.error fault, tree)

def placeForFile (tree : FileTree) (parts : List PathPart) : Except FileFault (List String) := do
  let place ← tree.locate parts
  match tree.found? place with
  | some .directory => throw .isADirectory
  | _ => return place

def writeFile (tree : FileTree) (parts : List PathPart) (content : ByteArray) :
    Except FileFault FileTree := do
  let place ← tree.placeForFile parts
  return tree.insert place (.file content)

/-- Move a file to a path, in place of the file that stands there. -/
def rename (tree : FileTree) (source : List PathPart) (target : FilePath) :
    Except FileFault FileTree := do
  let sourcePlace ← tree.locate source
  if target.isInvalid then throw .invalidName
  if ¬target.isGiven then throw .notFound
  if longestPath < target.length then throw .nameTooLong
  if target.namesDirectory then throw .notADirectory
  let targetPlace ← tree.placeForFile target.parts
  match tree.found? sourcePlace with
  | some (.file content) => return (tree.remove sourcePlace).insert targetPlace (.file content)
  | some .directory => throw .isADirectory
  | none => throw .notFound

def files (tree : FileTree) : List (List String × ByteArray) :=
  tree.entries.filterMap fun entry =>
    match entry.2 with
    | .file content => some (entry.1, content)
    | .directory => none

end FileTree

end TileAtlas
