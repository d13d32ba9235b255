import TileAtlas.Cache.Disk
import TileAtlas.Proofs.Cache.FileTree

/-!
Contract: a store on disk as a map from keys to contents.

Owns:
- `DiskStore.Stores` and `DiskStore.Fails`, all that a `put` changes;
- `DiskStore.put_spec`, one of them for every medium.
-/

namespace TileAtlas

open FileTree (GrowsAt destination through)

namespace DiskStore

/-- The place of the temporary file of a path. -/
def temporaryPlace (process : Nat) (path : FilePath) : List String :=
  destination [] (temporaryParts process path)

/-! ## Temporary files -/

section Temporary

variable (process : Nat) (path : FilePath)

theorem destination_append_child (parts : List PathPart) (name : String) :
    destination [] (parts ++ [.child name]) = destination [] parts ++ [name] := by
  unfold destination
  rw [List.foldl_append]
  rfl

theorem length_temporaryName (name : String) :
    name.length < (temporaryName process name).length := by
  rw [show temporaryName process name = name ++ "." ++ toString process ++ ".tmp" from rfl]
  simp only [String.length_append]
  have ending : ".tmp".length = 4 := by decide
  omega

theorem temporaryPlace_ne_root : temporaryPlace process path ≠ [] := by
  unfold temporaryPlace temporaryParts FilePath.withName
  split <;> rw [destination_append_child] <;> exact List.concat_ne_nil _ _

/-- A temporary file never stands at the place of its own key. -/
theorem temporaryPlace_ne_place : temporaryPlace process path ≠ path.place := by
  unfold temporaryPlace temporaryParts FilePath.withName FilePath.place
  cases named : path.name? with
  | none =>
      simp only
      rw [destination_append_child]
      intro same
      simpa using congrArg List.length same
  | some name =>
      have isLast : path.parts = path.parent ++ [.child name] := by
        unfold FilePath.name? at named
        split at named
        next last =>
          cases named
          obtain ⟨front, isFront⟩ := List.getLast?_eq_some_iff.mp last
          rw [FilePath.parent, isFront, List.dropLast_concat]
        next => cases named
      simp only
      rw [isLast, destination_append_child, destination_append_child]
      intro same
      have sameName : temporaryName process name = name := by simpa using same
      have longer := length_temporaryName process name
      rw [sameName] at longer
      exact Nat.lt_irrefl _ longer

/-- Above the place of a path nothing changes but directories that are made. -/
theorem prepare_grows (medium : Medium) (tree : FileTree) (place : List String) :
    tree.GrowsAt (prepare medium tree path).2 path.through place := by
  unfold prepare
  split
  · exact GrowsAt.refl tree _ place
  · split
    · exact GrowsAt.refl tree _ place
    · split
      · exact (tree.makeDirectories_grows [] path.parent place).mono (List.subset_cons_self _ _)
      · exact GrowsAt.refl tree _ place

/-- Writing a temporary file leaves the tree as it is, or puts some bytes at the
temporary place; without a fault these are the bytes to store. -/
theorem writeTemporary_spec (medium : Medium) (tree : FileTree) (data : ByteArray) :
    let outcome := writeTemporary medium process tree path data
    (outcome.1 ≠ .ok () ∧ outcome.2 = tree) ∨
      ∃ content, tree.locate (temporaryParts process path) = .ok (temporaryPlace process path) ∧
        tree.found? (temporaryPlace process path) ≠ some .directory ∧
        outcome.2 = tree.insert (temporaryPlace process path) (.file content) ∧
        (outcome.1 = .ok () → content = data) := by
  unfold writeTemporary
  simp only
  split
  · exact .inl ⟨nofun, rfl⟩
  · split
    · exact .inl ⟨nofun, rfl⟩
    · split
      · exact .inl ⟨nofun, rfl⟩
      · split
        next written isWritten =>
          obtain ⟨located, free, same⟩ := FileTree.writeFile_eq_ok_iff.mp isWritten
          exact .inr ⟨data, located, free, same, fun _ => rfl⟩
        next => exact .inl ⟨nofun, rfl⟩
      · split
        next written isWritten =>
          obtain ⟨located, free, same⟩ := FileTree.writeFile_eq_ok_iff.mp isWritten
          exact .inr ⟨_, located, free, same, nofun⟩
        next => exact .inl ⟨nofun, rfl⟩

/-- Taking a temporary file away leaves the tree as it is, or frees the place of
a file. -/
theorem discard_spec (medium : Medium) (tree : FileTree) :
    discard medium tree (temporaryParts process path) = tree ∨
      tree.found? (temporaryPlace process path) ≠ some .directory ∧
        discard medium tree (temporaryParts process path) =
          tree.remove (temporaryPlace process path) := by
  unfold discard
  split
  · split
    next place located =>
      obtain rfl := (FileTree.locate_eq_ok_iff.mp located).2.2
      split
      next content standing => exact .inr ⟨by simp [temporaryPlace, standing], rfl⟩
      next => exact .inl rfl
    next => exact .inl rfl
  · exact .inl rfl

/-- A temporary file that was written is taken away, unless that fails. -/
theorem discard_insert {medium : Medium} {tree : FileTree} {content : ByteArray}
    (removes : medium.removes = true)
    (located : tree.locate (temporaryParts process path) = .ok (temporaryPlace process path))
    (free : tree.found? (temporaryPlace process path) ≠ some .directory) :
    (discard medium (tree.insert (temporaryPlace process path) (.file content))
      (temporaryParts process path)).found? (temporaryPlace process path) = none := by
  have notRoot := temporaryPlace_ne_root process path
  obtain ⟨directories, fits, -⟩ := FileTree.locate_eq_ok_iff.mp located
  have locatedToo : (tree.insert (temporaryPlace process path) (.file content)).locate
      (temporaryParts process path) = .ok (temporaryPlace process path) := by
    refine FileTree.locate_eq_ok_iff.mpr ⟨fun directory member => ?_, fits, rfl⟩
    rw [FileTree.found?_insert _ _ notRoot, if_neg ?_]
    · exact directories directory member
    · intro same
      rw [same] at member
      exact free (directories _ member)
  have standing : (tree.insert (temporaryPlace process path) (.file content)).found?
      (temporaryPlace process path) = some (.file content) := by
    rw [FileTree.found?_insert _ _ notRoot, if_pos rfl]
  unfold discard
  rw [if_pos removes, locatedToo]
  simp only [standing]
  rw [FileTree.found?_remove, if_pos ⟨notRoot, rfl⟩]

end Temporary

/-! ## What a put changes -/

section Put

variable {medium : Medium} {process : Nat} {tree next : FileTree} {path : FilePath}
  {data : ByteArray}

/-- All that a put changes that fails: directories are made above the path, and a
temporary file may stay behind if it is not taken away. -/
structure Fails (removes : Bool) (process : Nat) (path : FilePath) (tree next : FileTree) :
    Prop where
  elsewhere : ∀ place, place ≠ temporaryPlace process path →
    tree.GrowsAt next path.through place
  temporary : tree.GrowsAt next path.through (temporaryPlace process path) ∨
    tree.found? (temporaryPlace process path) ≠ some .directory ∧
      (next.found? (temporaryPlace process path) = none ∨ removes = false)

/-- All that a put changes that succeeds: the path leads to the bytes, directories
are made above it, and no temporary file stays behind. -/
structure Stores (process : Nat) (path : FilePath) (data : ByteArray) (tree next : FileTree) :
    Prop where
  found : next.find path = .ok (path.place, .file data)
  free : tree.found? path.place ≠ some .directory
  elsewhere : ∀ place, place ≠ path.place → place ≠ temporaryPlace process path →
    tree.GrowsAt next path.through place
  temporary : tree.found? (temporaryPlace process path) ≠ some .directory ∧
    next.found? (temporaryPlace process path) = none

variable (grows : ∀ place, tree.GrowsAt next path.through place)

include grows

theorem fails_of_grows (removes : Bool) : Fails removes process path tree next where
  elsewhere := fun place _ => grows place
  temporary := .inl (grows _)

theorem fails_of_discard (medium : Medium) : Fails medium.removes process path tree
    (discard medium next (temporaryParts process path)) := by
  cases discard_spec process path medium next with
  | inl same =>
      rw [same]
      exact fails_of_grows grows medium.removes
  | inr freed =>
      have notDirectory : tree.found? (temporaryPlace process path) ≠ some .directory :=
        fun standing => freed.1 ((grows _).directory standing)
      rw [freed.2]
      refine ⟨fun place apart => ?_, .inr ⟨notDirectory, .inl ?_⟩⟩
      · unfold GrowsAt
        rw [FileTree.found?_remove, if_neg fun both => apart both.2]
        exact grows place
      · rw [FileTree.found?_remove, if_pos ⟨temporaryPlace_ne_root process path, rfl⟩]

/-- Bytes at the temporary place do no harm, whether or not they are taken away. -/
theorem fails_of_discard_insert (medium : Medium) (content : ByteArray)
    (located : next.locate (temporaryParts process path) = .ok (temporaryPlace process path))
    (free : next.found? (temporaryPlace process path) ≠ some .directory) :
    Fails medium.removes process path tree
      (discard medium (next.insert (temporaryPlace process path) (.file content))
        (temporaryParts process path)) := by
  have notRoot := temporaryPlace_ne_root process path
  have notDirectory : tree.found? (temporaryPlace process path) ≠ some .directory :=
    fun standing => free ((grows _).directory standing)
  refine ⟨fun place apart => ?_, .inr ⟨notDirectory, ?_⟩⟩
  · have inserted : (next.insert (temporaryPlace process path) (.file content)).found? place =
        next.found? place := by
      rw [FileTree.found?_insert _ _ notRoot, if_neg apart]
    have kept : (discard medium (next.insert (temporaryPlace process path) (.file content))
        (temporaryParts process path)).found? place = next.found? place := by
      cases discard_spec process path medium
        (next.insert (temporaryPlace process path) (.file content)) with
      | inl same => rw [same, inserted]
      | inr freed => rw [freed.2, FileTree.found?_remove, if_neg fun both => apart both.2, inserted]
    unfold GrowsAt
    rw [kept]
    exact grows place
  · cases removes : medium.removes with
    | true => exact .inl (discard_insert process path removes located free)
    | false => exact .inr rfl

theorem stores_of_rename {moved : FileTree}
    (free : next.found? (temporaryPlace process path) ≠ some .directory)
    (renamed : (next.insert (temporaryPlace process path) (.file data)).rename
      (temporaryParts process path) path = .ok moved) :
    Stores process path data tree moved := by
  have notRoot := temporaryPlace_ne_root process path
  have apart := temporaryPlace_ne_place process path
  obtain ⟨content, standing, names, directories, notDirectory, isMoved⟩ :=
    FileTree.rename_eq_ok renamed
  change (next.insert (temporaryPlace process path) _).found? (temporaryPlace process path) = _
    at standing
  change moved = FileTree.insert (FileTree.remove _ (temporaryPlace process path)) _ _ at isMoved
  have placeNotRoot : path.place ≠ [] := by
    intro isRoot
    rw [isRoot, FileTree.found?_root] at notDirectory
    exact notDirectory rfl
  have written (place : List String) :
      (next.insert (temporaryPlace process path) (.file data)).found? place =
        if place = temporaryPlace process path then some (.file data) else next.found? place :=
    FileTree.found?_insert _ _ notRoot _
  rw [written, if_pos rfl] at standing
  cases standing
  have after (place : List String) : moved.found? place =
      if place = path.place then some (.file data)
      else if place = temporaryPlace process path then none else next.found? place := by
    rw [isMoved, FileTree.found?_insert _ _ placeNotRoot, FileTree.found?_remove, written]
    by_cases isTemporary : place = temporaryPlace process path
    · simp [isTemporary, notRoot]
    · simp [isTemporary]
  have kept {place : List String} (notPlace : place ≠ path.place)
      (notTemporary : place ≠ temporaryPlace process path) :
      moved.found? place = next.found? place := by
    rw [after, if_neg notPlace, if_neg notTemporary]
  refine ⟨FileTree.find_eq_file_iff.mpr ⟨names, fun directory member => ?_, rfl, ?_⟩,
    fun isDirectory => ?_, fun place notPlace notTemporary => ?_, fun isDirectory => ?_, ?_⟩
  · have isDirectory := directories directory member
    have notPlace : directory ≠ path.place := fun same => notDirectory (same ▸ isDirectory)
    have notTemporary : directory ≠ temporaryPlace process path := by
      intro same
      rw [written, if_pos same] at isDirectory
      cases isDirectory
    rw [kept notPlace notTemporary]
    rwa [written, if_neg notTemporary] at isDirectory
  · rw [after, if_pos rfl]
  · rw [written, if_neg apart.symm] at notDirectory
    exact notDirectory ((grows _).directory isDirectory)
  · unfold GrowsAt
    rw [kept notPlace notTemporary]
    exact grows place
  · exact free ((grows _).directory isDirectory)
  · rw [after, if_neg apart, if_pos rfl]

omit grows

/-- A `put` stores all bytes or fails, whatever the medium does. -/
theorem put_spec (medium : Medium) (process : Nat) (tree : FileTree) (key : String)
    (data : ByteArray) :
    let outcome := put medium process tree key data
    (outcome.1 = .ok () ∧ Stores process (.ofText key) data tree outcome.2) ∨
      (∃ fault, outcome.1 = .error (.io fault)) ∧
        Fails medium.removes process (.ofText key) tree outcome.2 := by
  unfold put
  simp only
  generalize FilePath.ofText key = path
  have grows := prepare_grows path medium tree
  generalize prepare medium tree path = preparation at grows
  obtain ⟨result, prepared⟩ := preparation
  cases result with
  | error fault => exact .inr ⟨⟨fault, rfl⟩, fails_of_grows grows medium.removes⟩
  | ok =>
      have writes := writeTemporary_spec process path medium prepared data
      simp only at writes ⊢
      generalize writeTemporary medium process prepared path data = writing at writes
      obtain ⟨result, written⟩ := writing
      cases writes with
      | inl unwritten =>
          obtain ⟨failed, same⟩ := unwritten
          obtain rfl : written = prepared := same
          cases result with
          | ok => exact absurd rfl failed
          | error fault => exact .inr ⟨⟨fault, rfl⟩, fails_of_discard grows medium⟩
      | inr inserted =>
          obtain ⟨content, located, free, same, complete⟩ := inserted
          obtain rfl : written = prepared.insert _ _ := same
          have failing := fails_of_discard_insert grows medium content located free
          cases result with
          | error fault => exact .inr ⟨⟨fault, rfl⟩, failing⟩
          | ok =>
              cases complete rfl
              simp only
              cases moves : moveIntoPlace medium (prepared.insert (temporaryPlace process path)
                  (.file data)) (temporaryParts process path) path with
              | error fault => exact .inr ⟨⟨fault, rfl⟩, failing⟩
              | ok moved =>
                  refine .inl ⟨rfl, stores_of_rename grows free ?_⟩
                  unfold moveIntoPlace at moves
                  split at moves
                  · exact moves
                  · cases moves

end Put

end DiskStore

end TileAtlas
