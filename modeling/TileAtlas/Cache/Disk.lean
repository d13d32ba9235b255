import TileAtlas.Cache.FileTree

/-!
Contract: tiles as files named by their keys.

Owns:
- `DiskStore.contains`, `get`, `put` and `delete` on a tree of files;
- `Medium`, which of the steps of a `put` fail.

A tile is written to a temporary file beside its place and then moved there, so
a reader never sees part of a tile.  Missing files and missing directories are
misses; every other fault is an error.
-/

namespace TileAtlas

/-- How the writing of a file ends. -/
inductive WriteOutcome where
  | complete
  | refused
  /-- Some bytes were written before the failure. -/
  | torn (written : ByteArray)

/-- What becomes of the steps of a `put`. -/
structure Medium where
  makesDirectories : Bool
  write : WriteOutcome
  renames : Bool
  removes : Bool

/-- A medium on which every step that can take effect does. -/
def Medium.sound : Medium := ⟨true, .complete, true, true⟩

namespace DiskStore

def orMissing {β : Type} (missing : β) : Except FileFault β → Except Error β
  | .ok value => .ok value
  | .error .notFound => .ok missing
  | .error fault => .error (.io fault)

def contains (tree : FileTree) (key : String) : Except Error Bool :=
  orMissing false ((tree.find (.ofText key)).map fun found =>
    match found.2 with
    | .file _ => true
    | .directory => false)

def get (tree : FileTree) (key : String) : Except Error (Option ByteArray) :=
  orMissing none ((tree.read (.ofText key)).map some)

/-- The name of the temporary file beside a name. -/
def temporaryName (process : Nat) (name : String) : String := s!"{name}.{process}.tmp"

def temporaryParts (process : Nat) (path : FilePath) : List PathPart :=
  path.withName (temporaryName process (path.name?.getD ""))

/-- Make the directories above a key.  None is made when the path to them cannot
be one. -/
def prepare (medium : Medium) (tree : FileTree) (path : FilePath) :
    Except FileFault Unit × FileTree :=
  if path.hasInvalidParent then (.error .invalidName, tree)
  else if FileTree.longestPath < path.parentLength then (.error .nameTooLong, tree)
  else if medium.makesDirectories then tree.makeDirectories [] path.parent
  else (.error .refused, tree)

/-- Whether the path of the temporary file of a key is too long. -/
def temporaryIsTooLong (process : Nat) (path : FilePath) : Bool :=
  FileTree.longestPath < path.lengthWithName (temporaryName process (path.name?.getD ""))

/-- Write the temporary file.  A failure may leave part of it. -/
def writeTemporary (medium : Medium) (process : Nat) (tree : FileTree) (path : FilePath)
    (data : ByteArray) : Except FileFault Unit × FileTree :=
  let parts := temporaryParts process path
  if path.isInvalid then (.error .invalidName, tree)
  else if temporaryIsTooLong process path then (.error .nameTooLong, tree)
  else
    match medium.write with
    | .refused => (.error .refused, tree)
    | .complete =>
        match tree.writeFile parts data with
        | .ok written => (.ok (), written)
        | .error fault => (.error fault, tree)
    | .torn part =>
        match tree.writeFile parts part with
        | .ok written => (.error .refused, written)
        | .error fault => (.error fault, tree)

def moveIntoPlace (medium : Medium) (tree : FileTree) (parts : List PathPart) (path : FilePath) :
    Except FileFault FileTree :=
  if medium.renames then tree.rename parts path else .error .refused

/-- Take the temporary file away after a failure. -/
def discard (medium : Medium) (tree : FileTree) (parts : List PathPart) : FileTree :=
  if medium.removes then
    match tree.locate parts with
    | .ok place =>
        match tree.found? place with
        | some (.file _) => tree.remove place
        | _ => tree
    | .error _ => tree
  else tree

def put (medium : Medium) (process : Nat) (tree : FileTree) (key : String) (data : ByteArray) :
    Except Error Unit × FileTree :=
  let path := FilePath.ofText key
  match prepare medium tree path with
  | (.error fault, prepared) => (.error (.io fault), prepared)
  | (.ok (), prepared) =>
      let parts := temporaryParts process path
      match writeTemporary medium process prepared path data with
      | (.error fault, torn) => (.error (.io fault), discard medium torn parts)
      | (.ok (), written) =>
          match moveIntoPlace medium written parts path with
          | .ok moved => (.ok (), moved)
          | .error fault => (.error (.io fault), discard medium written parts)

def delete (tree : FileTree) (key : String) : Except Error FileTree :=
  orMissing tree (tree.removeFile (.ofText key))

end DiskStore

end TileAtlas
