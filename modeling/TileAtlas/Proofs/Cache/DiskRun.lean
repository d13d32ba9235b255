import Mathlib.Data.Set.Basic
import TileAtlas.Proofs.Cache.Disk

/-!
Contract: a store on disk as a map from keys to contents.

Owns:
- `DiskCall`, `DiskEvent` and `run`, calls and what they answer;
- `lastStored`, the content of a key by the events so far;
- `KeysApart`, keys that can be used side by side;
- `Answers`, what a call may answer;
- `Holds`, the invariant of a run, and `Holds.perform`, its step;
- `run_isMap`, what a run answers and leaves behind.

Why keys apart may still obstruct each other:
- A path may lead through a place without being below it, as `b/../c` leads
  through `b`.  It may also lead through the temporary file of another key that a
  `put` left behind.  Where a file stands on the way a key is not missing: looking
  it up is a fault, and a fault is passed on.
-/

namespace TileAtlas

/-- A call of a store on disk. -/
inductive DiskCall where
  | put (medium : Medium) (key : String) (data : ByteArray)
  | get (key : String)
  | contains (key : String)
  | delete (key : String)

/-- What a call answers. -/
inductive DiskAnswer where
  | put (result : Except Error Unit)
  | get (result : Except Error (Option ByteArray))
  | contains (result : Except Error Bool)
  | delete (result : Except Error Unit)

/-- A call with its answer. -/
structure DiskEvent where
  call : DiskCall
  answer : DiskAnswer

def DiskCall.key : DiskCall → String
  | .put _ key _ => key
  | .get key => key
  | .contains key => key
  | .delete key => key

/-- The bytes of the file at a place. -/
def FileTree.content? (tree : FileTree) (place : List String) : Option ByteArray :=
  match tree.found? place with
  | some (.file content) => some content
  | _ => none

theorem FileTree.content?_eq_some_iff {tree : FileTree} {place : List String}
    {content : ByteArray} :
    tree.content? place = some content ↔ tree.found? place = some (.file content) := by
  unfold content?
  split <;> simp_all

namespace DiskStore

/-- What a call answers, and the tree that it leaves. -/
def perform (process : Nat) (tree : FileTree) : DiskCall → DiskAnswer × FileTree
  | .put medium key data =>
      let outcome := put medium process tree key data
      (.put outcome.1, outcome.2)
  | .get key => (.get (get tree key), tree)
  | .contains key => (.contains (contains tree key), tree)
  | .delete key =>
      match delete tree key with
      | .ok next => (.delete (.ok ()), next)
      | .error error => (.delete (.error error), tree)

/-- What calls answer one after another, and the tree that they leave. -/
def run (process : Nat) (tree : FileTree) : List DiskCall → List DiskEvent × FileTree
  | [] => ([], tree)
  | call :: rest =>
      let outcome := perform process tree call
      let later := run process outcome.2 rest
      (⟨call, outcome.1⟩ :: later.1, later.2)

/-- The content of a key after one more event. -/
def noteEvent (key : String) (content : Option ByteArray) : DiskEvent → Option ByteArray
  | ⟨.put _ other data, .put (.ok ())⟩ => if other = key then some data else content
  | ⟨.delete other, _⟩ => if other = key then none else content
  | _ => content

/-- The bytes of the last successful `put` of a key that no `delete` of it
follows. -/
def lastStored (events : List DiskEvent) (key : String) : Option ByteArray :=
  events.foldl (noteEvent key) none

/-- No key names the place of another one or a directory above it, and none names
the temporary place of another. -/
structure KeysApart (process : Nat) (keys : Set String) : Prop where
  places : ∀ first ∈ keys, ∀ second ∈ keys, first ≠ second →
    ¬(FilePath.ofText first).place <+: (FilePath.ofText second).place
  temporaries : ∀ first ∈ keys, ∀ second ∈ keys, first ≠ second →
    temporaryPlace process (.ofText first) ≠ (FilePath.ofText second).place

/-- A place that a key needs besides its own: one on the way to it, or that of
its temporary file. -/
def IsAuxiliary (process : Nat) (keys : Set String) (place : List String) : Prop :=
  ∃ key ∈ keys, place ∈ (FilePath.ofText key).through ∨
    place = temporaryPlace process (.ofText key)

/-- No file stands yet where the keys lead to, or in the way. -/
structure Admits (process : Nat) (keys : Set String) (tree : FileTree) : Prop where
  clear : ∀ place, IsAuxiliary process keys place →
    ∀ content, tree.found? place ≠ some (.file content)
  absent : ∀ key ∈ keys, ∀ content,
    tree.found? (FilePath.ofText key).place ≠ some (.file content)

/-- The event is a `put` that failed and could not take its temporary file away. -/
def LeavesTemporary (process : Nat) (place : List String) (event : DiskEvent) : Prop :=
  ∃ medium key data error, event = ⟨.put medium key data, .put (.error error)⟩ ∧
    medium.removes = false ∧ temporaryPlace process (.ofText key) = place

/-- The file at a place is what was stored last under a key. -/
def IsStored (keys : Set String) (events : List DiskEvent) (place : List String)
    (content : ByteArray) : Prop :=
  ∃ owner ∈ keys, (FilePath.ofText owner).place = place ∧ lastStored events owner = some content

/-- An answer is the one expected.  Only if nothing is stored under the key and
there is an obstacle to it, the answer is the fault of that instead. -/
def Answers {β : Type} (events : List DiskEvent) (key : String) (obstacle : FileFault → Prop)
    (expected : β) (answer : Except Error β) : Prop :=
  answer = .ok expected ∨
    lastStored events key = none ∧ ∃ fault, obstacle fault ∧ answer = .error (.io fault)

/-- The answer of a call is right, given the events before it and the tree that
they left. -/
def IsRight (events : List DiskEvent) (tree : FileTree) : DiskCall → DiskAnswer → Prop
  | .put _ _ _, .put _ => True
  | .get key, .get answer =>
      Answers events key (tree.Withholds (.ofText key)) (lastStored events key) answer
  | .contains key, .contains answer =>
      Answers events key (tree.Obstructs (.ofText key)) (lastStored events key).isSome answer
  | .delete key, .delete answer => Answers events key (tree.Withholds (.ofText key)) () answer
  | _, _ => False

/-! ## Invariant -/

/-- What holds of the tree between two calls. -/
structure Holds (process : Nat) (keys : Set String) (events : List DiskEvent) (tree : FileTree) :
    Prop where
  /-- A file in the way is that of a key, or a temporary file that was left behind. -/
  clear : ∀ place, IsAuxiliary process keys place → ∀ content,
    tree.found? place = some (.file content) →
      IsStored keys events place content ∨ ∃ event ∈ events, LeavesTemporary process place event
  stored : ∀ key ∈ keys, ∀ content, lastStored events key = some content →
    tree.find (.ofText key) = .ok ((FilePath.ofText key).place, .file content)
  absent : ∀ key ∈ keys, lastStored events key = none →
    ∀ content, tree.found? (FilePath.ofText key).place ≠ some (.file content)

section Invariant

variable {process : Nat} {keys : Set String} {events : List DiskEvent} {tree next : FileTree}
  {key : String}

theorem lastStored_append (events : List DiskEvent) (event : DiskEvent) (key : String) :
    lastStored (events ++ [event]) key = noteEvent key (lastStored events key) event := by
  unfold lastStored
  rw [List.foldl_append]
  rfl

theorem holds_of_admits (admits : Admits process keys tree) : Holds process keys [] tree where
  clear := fun place auxiliary content standing =>
    absurd standing (admits.clear place auxiliary content)
  stored := fun _ _ _ stored => nomatch stored
  absent := fun key member _ => admits.absent key member

/-- A file in the way may stay there if the event keeps what is stored at its
place. -/
theorem Holds.clear_append (holds : Holds process keys events tree) {place : List String}
    (auxiliary : IsAuxiliary process keys place) {content : ByteArray}
    (standing : tree.found? place = some (.file content)) {event : DiskEvent}
    (same : ∀ owner ∈ keys, (FilePath.ofText owner).place = place →
      noteEvent owner (lastStored events owner) event = lastStored events owner) :
    IsStored keys (events ++ [event]) place content ∨
      ∃ past ∈ events ++ [event], LeavesTemporary process place past := by
  cases holds.clear place auxiliary content standing with
  | inl isStored =>
      obtain ⟨owner, member, isPlace, stored⟩ := isStored
      refine .inl ⟨owner, member, isPlace, ?_⟩
      rw [lastStored_append, same owner member isPlace, stored]
  | inr leftBehind =>
      obtain ⟨past, inEvents, leaves⟩ := leftBehind
      exact .inr ⟨past, List.mem_append_left _ inEvents, leaves⟩

/-- A tree that stays the same may go with more events, if they store nothing. -/
theorem Holds.keep (holds : Holds process keys events tree) {event : DiskEvent}
    (same : ∀ key ∈ keys, noteEvent key (lastStored events key) event = lastStored events key) :
    Holds process keys (events ++ [event]) tree where
  clear := fun _ auxiliary _ standing =>
    holds.clear_append auxiliary standing fun owner member _ => same owner member
  stored := by
    intro key member content stored
    rw [lastStored_append, same key member] at stored
    exact holds.stored key member content stored
  absent := by
    intro key member absent
    rw [lastStored_append, same key member] at absent
    exact holds.absent key member absent

theorem KeysApart.place_ne (apart : KeysApart process keys) {other : String} (member : key ∈ keys)
    (otherMember : other ∈ keys) (differ : key ≠ other) :
    (FilePath.ofText key).place ≠ (FilePath.ofText other).place := by
  intro same
  exact apart.places key member other otherMember differ (same ▸ List.prefix_rfl)

/-- No temporary file stands at the place of a key. -/
theorem KeysApart.place_ne_temporaryPlace (apart : KeysApart process keys) {other : String}
    (member : key ∈ keys) (otherMember : other ∈ keys) :
    (FilePath.ofText other).place ≠ temporaryPlace process (.ofText key) := by
  by_cases same : key = other
  · rw [same]
    exact (temporaryPlace_ne_place process _).symm
  · exact (apart.temporaries key member other otherMember same).symm

/-- A `put` that fails keeps the files at the places of all keys. -/
theorem Fails.file_iff {removes : Bool} {content : ByteArray} {other : String}
    (apart : KeysApart process keys) (member : key ∈ keys) (otherMember : other ∈ keys)
    (fails : Fails removes process (.ofText key) tree next) :
    next.found? (FilePath.ofText other).place = some (.file content) ↔
      tree.found? (FilePath.ofText other).place = some (.file content) :=
  (fails.elsewhere _ (apart.place_ne_temporaryPlace member otherMember)).file_iff

theorem Fails.directory {removes : Bool} {path : FilePath} {place : List String}
    (fails : Fails removes process path tree next)
    (standing : tree.found? place = some .directory) : next.found? place = some .directory := by
  by_cases isTemporary : place = temporaryPlace process path
  · subst isTemporary
    cases fails.temporary with
    | inl grows => exact grows.directory standing
    | inr changed => exact absurd standing changed.1
  · exact (fails.elsewhere place isTemporary).directory standing

/-- A temporary file after a `put` that failed was there before, or could not be
taken away. -/
theorem Fails.leftover {removes : Bool} {path : FilePath} {content : ByteArray}
    (fails : Fails removes process path tree next)
    (standing : next.found? (temporaryPlace process path) = some (.file content)) :
    removes = false ∨ tree.found? (temporaryPlace process path) = some (.file content) := by
  cases fails.temporary with
  | inl grows => exact .inr (grows.file_iff.mp standing)
  | inr changed =>
      cases changed.2 with
      | inl none => cases none.symm.trans standing
      | inr stays => exact .inl stays

theorem Holds.of_fails (apart : KeysApart process keys) (holds : Holds process keys events tree)
    {medium : Medium} {data : ByteArray} {error : Error} (member : key ∈ keys)
    (fails : Fails medium.removes process (.ofText key) tree next) :
    Holds process keys (events ++ [⟨.put medium key data, .put (.error error)⟩]) next := by
  have same (other : String) :
      lastStored (events ++ [⟨.put medium key data, .put (.error error)⟩]) other =
        lastStored events other :=
    lastStored_append _ _ _
  refine ⟨?_, ?_, ?_⟩
  · intro place auxiliary content standing
    by_cases isTemporary : place = temporaryPlace process (.ofText key)
    · subst isTemporary
      cases fails.leftover standing with
      | inl stays =>
          exact .inr ⟨_, List.mem_append_right _ (List.mem_singleton_self _), medium, key, data,
            error, rfl, stays, rfl⟩
      | inr before => exact holds.clear_append auxiliary before fun _ _ _ => rfl
    · exact holds.clear_append auxiliary
        ((fails.elsewhere place isTemporary).file_iff.mp standing) fun _ _ _ => rfl
  · intro other otherMember content stored
    rw [same] at stored
    have found := holds.stored other otherMember content stored
    obtain ⟨-, -, -, standing⟩ := FileTree.find_eq_file_iff.mp found
    exact FileTree.find_of_kept found (fun _ _ => fails.directory)
      ((fails.file_iff apart member otherMember).mpr standing)
  · intro other otherMember absent content standing
    rw [same] at absent
    exact holds.absent other otherMember absent content
      ((fails.file_iff apart member otherMember).mp standing)

theorem Holds.of_stores (apart : KeysApart process keys) (holds : Holds process keys events tree)
    (medium : Medium) {data : ByteArray} (member : key ∈ keys)
    (stores : Stores process (.ofText key) data tree next) :
    Holds process keys (events ++ [⟨.put medium key data, .put (.ok ())⟩]) next := by
  obtain ⟨-, -, -, placed⟩ := FileTree.find_eq_file_iff.mp stores.found
  have latest (other : String) :
      lastStored (events ++ [⟨.put medium key data, .put (.ok ())⟩]) other =
        if key = other then some data else lastStored events other :=
    lastStored_append _ _ _
  -- other places than those of the key and of its temporary file at most grow
  have elsewhere {other : String} (otherMember : other ∈ keys) (isOther : key ≠ other) :
      tree.GrowsAt next (FilePath.ofText key).through (FilePath.ofText other).place :=
    stores.elsewhere _ (apart.place_ne member otherMember isOther).symm
      (apart.place_ne_temporaryPlace member otherMember)
  have directory {place : List String} (standing : tree.found? place = some .directory) :
      next.found? place = some .directory := by
    refine (stores.elsewhere place ?_ ?_).directory standing
    · intro isPlace
      exact stores.free (isPlace ▸ standing)
    · intro isTemporary
      exact stores.temporary.1 (isTemporary ▸ standing)
  refine ⟨?_, ?_, ?_⟩
  · intro place auxiliary content standing
    by_cases isPlace : place = (FilePath.ofText key).place
    · subst isPlace
      cases placed.symm.trans standing
      exact .inl ⟨key, member, rfl, (latest key).trans (if_pos rfl)⟩
    · by_cases isTemporary : place = temporaryPlace process (.ofText key)
      · rw [isTemporary, stores.temporary.2] at standing
        cases standing
      · refine holds.clear_append auxiliary
          ((stores.elsewhere place isPlace isTemporary).file_iff.mp standing) ?_
        intro owner _ isOwned
        refine if_neg (fun isKey : key = owner => isPlace ?_)
        rw [← isOwned, isKey]
  · intro other otherMember content stored
    rw [latest] at stored
    by_cases isKey : key = other
    · subst isKey
      rw [if_pos rfl] at stored
      cases stored
      exact stores.found
    · rw [if_neg isKey] at stored
      have found := holds.stored other otherMember content stored
      obtain ⟨-, -, -, standing⟩ := FileTree.find_eq_file_iff.mp found
      exact FileTree.find_of_kept found (fun _ _ => directory)
        ((elsewhere otherMember isKey).file_iff.mpr standing)
  · intro other otherMember absent content standing
    rw [latest] at absent
    by_cases isKey : key = other
    · rw [if_pos isKey] at absent
      cases absent
    · rw [if_neg isKey] at absent
      exact holds.absent other otherMember absent content
        ((elsewhere otherMember isKey).file_iff.mp standing)

/-- Taking away the file of a key keeps all other files, and all directories. -/
theorem Holds.of_remove (apart : KeysApart process keys) (holds : Holds process keys events tree)
    {content : ByteArray} (answer : DiskAnswer) (member : key ∈ keys)
    (placed : tree.found? (FilePath.ofText key).place = some (.file content)) :
    Holds process keys (events ++ [⟨.delete key, answer⟩])
      (tree.remove (FilePath.ofText key).place) := by
  have notRoot : (FilePath.ofText key).place ≠ [] := by
    intro isRoot
    rw [isRoot, FileTree.found?_root] at placed
    cases placed
  have latest (other : String) : lastStored (events ++ [⟨.delete key, answer⟩]) other =
      if key = other then none else lastStored events other :=
    lastStored_append _ _ _
  have removed {place : List String} (isPlace : place = (FilePath.ofText key).place) :
      (tree.remove (FilePath.ofText key).place).found? place = none := by
    rw [FileTree.found?_remove, if_pos ⟨isPlace ▸ notRoot, isPlace⟩]
  have kept {place : List String} (notPlace : place ≠ (FilePath.ofText key).place) :
      (tree.remove (FilePath.ofText key).place).found? place = tree.found? place := by
    rw [FileTree.found?_remove, if_neg fun both => notPlace both.2]
  have earlier {place : List String} {entry : FileEntry}
      (standing : (tree.remove (FilePath.ofText key).place).found? place = some entry) :
      tree.found? place = some entry := by
    by_cases isPlace : place = (FilePath.ofText key).place
    · cases (removed isPlace).symm.trans standing
    · exact (kept isPlace).symm.trans standing
  refine ⟨?_, ?_, ?_⟩
  · intro place auxiliary content standing
    refine holds.clear_append auxiliary (earlier standing) fun owner _ isOwned => if_neg ?_
    intro isKey
    cases (removed (isKey ▸ isOwned.symm)).symm.trans standing
  · intro other otherMember content stored
    rw [latest] at stored
    by_cases isKey : key = other
    · rw [if_pos isKey] at stored
      cases stored
    · rw [if_neg isKey] at stored
      have found := holds.stored other otherMember content stored
      obtain ⟨-, -, -, standing⟩ := FileTree.find_eq_file_iff.mp found
      have notPlace := (apart.place_ne member otherMember isKey).symm
      refine FileTree.find_of_kept found (fun directory _ isDirectory => ?_)
        ((kept notPlace).trans standing)
      refine (kept ?_).trans isDirectory
      intro isPlace
      rw [isPlace, placed] at isDirectory
      cases isDirectory
  · intro other otherMember absent content standing
    by_cases isKey : key = other
    · cases (removed (by rw [isKey])).symm.trans standing
    · rw [latest, if_neg isKey] at absent
      exact holds.absent other otherMember absent content (earlier standing)

end Invariant

/-! ## Answers -/

section Answers

variable {process : Nat} {keys : Set String} {events : List DiskEvent} {tree : FileTree}
  {key : String}

/-- The bytes at the place of a key are those that were stored last. -/
theorem Holds.content? (holds : Holds process keys events tree) (member : key ∈ keys) :
    tree.content? (FilePath.ofText key).place = lastStored events key := by
  cases stored : lastStored events key with
  | some content =>
      have found := holds.stored key member content stored
      exact FileTree.content?_eq_some_iff.mpr (FileTree.find_eq_file_iff.mp found).2.2.2
  | none =>
      refine Option.eq_none_iff_forall_ne_some.mpr fun content standing => ?_
      exact holds.absent key member stored content (FileTree.content?_eq_some_iff.mp standing)

theorem orMissing_error {β : Type} (missing : β) {fault : FileFault}
    (differs : fault ≠ .notFound) : orMissing missing (.error fault) = .error (.io fault) := by
  cases fault <;> first | rfl | exact absurd rfl differs

/-- A call that answers as the file that it finds says, passes faults on and takes
a directory for nothing or for an obstacle: it answers according to the bytes that
were stored last. -/
theorem Holds.lookUp (holds : Holds process keys events tree) (member : key ∈ keys) {β : Type}
    (expected : Option ByteArray → β) {obstacle : FileFault → Prop} {result : Except FileFault β}
    (obstructs : ∀ fault, tree.Obstructs (.ofText key) fault → obstacle fault)
    (atFile : ∀ content,
      tree.find (.ofText key) = .ok ((FilePath.ofText key).place, .file content) →
        result = .ok (expected (some content)))
    (atDirectory : ∀ place, tree.find (.ofText key) = .ok (place, .directory) →
      result = .ok (expected none) ∨ obstacle .isADirectory ∧ result = .error .isADirectory)
    (atFault : ∀ fault, tree.find (.ofText key) = .error fault → result = .error fault) :
    Answers events key obstacle (expected (lastStored events key))
      (orMissing (expected none) result) := by
  cases stored : lastStored events key with
  | some content =>
      rw [atFile content (holds.stored key member content stored)]
      exact .inl rfl
  | none =>
      have absent := holds.absent key member stored
      cases found : tree.find (.ofText key) with
      | error fault =>
          rw [atFault fault found]
          cases FileTree.Obstructs.of_find absent found with
          | inl isMissing =>
              rw [isMissing]
              exact .inl rfl
          | inr obstructed =>
              exact .inr ⟨stored, fault, obstructs fault obstructed,
                orMissing_error _ obstructed.ne_notFound⟩
      | ok entry =>
          obtain ⟨place, entry⟩ := entry
          cases entry with
          | file content => exact absurd (FileTree.find_eq_file_iff.mp found).2.2.2 (absent content)
          | directory =>
              cases atDirectory place found with
              | inl missed =>
                  rw [missed]
                  exact .inl rfl
              | inr failed =>
                  rw [failed.2]
                  exact .inr ⟨stored, _, failed.1, rfl⟩

theorem Holds.get (holds : Holds process keys events tree) (member : key ∈ keys) :
    Answers events key (tree.Withholds (.ofText key)) (lastStored events key)
      (DiskStore.get tree key) := by
  refine holds.lookUp member id (fun _ => .obstructs) ?_ ?_ ?_ <;> unfold FileTree.read
  · intro content found
    rw [found]
    rfl
  · intro place found
    rw [found]
    exact .inr ⟨.directory (FileTree.find_eq_directory found), rfl⟩
  · intro fault failed
    rw [failed]
    rfl

theorem Holds.contains (holds : Holds process keys events tree) (member : key ∈ keys) :
    Answers events key (tree.Obstructs (.ofText key)) (lastStored events key).isSome
      (DiskStore.contains tree key) := by
  refine holds.lookUp member Option.isSome (fun _ => id) ?_ ?_ ?_
  · intro content found
    rw [found]
    rfl
  · intro place found
    rw [found]
    exact .inl rfl
  · intro fault failed
    rw [failed]
    rfl

/-- A `delete` removes the file of its key if there is one, and nothing else. -/
theorem Holds.delete (holds : Holds process keys events tree) (member : key ∈ keys) :
    Answers events key (tree.Withholds (.ofText key))
      (if (lastStored events key).isSome then tree.remove (FilePath.ofText key).place else tree)
      (DiskStore.delete tree key) := by
  refine holds.lookUp member
    (fun content => if content.isSome then tree.remove (FilePath.ofText key).place else tree)
    (fun _ => .obstructs) ?_ ?_ ?_ <;> unfold FileTree.removeFile
  · intro content found
    rw [found]
    rfl
  · intro place found
    rw [found]
    exact .inr ⟨.directory (FileTree.find_eq_directory found), rfl⟩
  · intro fault failed
    rw [failed]
    rfl

end Answers

/-! ## Runs -/

section Runs

variable {process : Nat} {keys : Set String} {events : List DiskEvent} {tree : FileTree}

/-- One call answers as it should and keeps the invariant. -/
theorem Holds.perform (apart : KeysApart process keys)
    (holds : Holds process keys events tree) {call : DiskCall} (member : call.key ∈ keys) :
    let outcome := DiskStore.perform process tree call
    IsRight events tree call outcome.1 ∧
      Holds process keys (events ++ [⟨call, outcome.1⟩]) outcome.2 := by
  cases call with
  | put medium key data =>
      refine ⟨trivial, ?_⟩
      unfold DiskStore.perform
      simp only
      cases put_spec medium process tree key data with
      | inl stored =>
          rw [stored.1]
          exact holds.of_stores apart medium member stored.2
      | inr failed =>
          obtain ⟨⟨fault, answer⟩, fails⟩ := failed
          rw [answer]
          exact holds.of_fails apart member fails
  | get key => exact ⟨holds.get member, holds.keep fun _ _ => rfl⟩
  | contains key => exact ⟨holds.contains member, holds.keep fun _ _ => rfl⟩
  | delete key =>
      replace member : key ∈ keys := member
      have deletes := holds.delete member
      unfold DiskStore.perform
      simp only
      cases stored : lastStored events key with
      | some content =>
          have found := holds.stored key member content stored
          have standing := (FileTree.find_eq_file_iff.mp found).2.2.2
          cases deletes with
          | inl removes =>
              rw [stored] at removes
              rw [removes]
              exact ⟨.inl rfl, holds.of_remove apart _ member standing⟩
          | inr failed => cases stored.symm.trans failed.1
      | none =>
          have kept (answer : DiskAnswer) : ∀ other ∈ keys,
              noteEvent other (lastStored events other) ⟨.delete key, answer⟩ =
                lastStored events other := by
            intro other _
            show (if key = other then none else lastStored events other) = _
            split
            next isKey => rw [← isKey, stored]
            next => rfl
          cases deletes with
          | inl same =>
              rw [stored] at same
              rw [same]
              exact ⟨.inl rfl, holds.keep (kept _)⟩
          | inr failed =>
              obtain ⟨absent, fault, withheld, answer⟩ := failed
              rw [answer]
              exact ⟨.inr ⟨absent, fault, withheld, rfl⟩, holds.keep (kept _)⟩

/-- A run keeps the invariant. -/
theorem Holds.run (apart : KeysApart process keys) {calls : List DiskCall}
    (members : ∀ call ∈ calls, call.key ∈ keys)
    (holds : Holds process keys events tree) :
    Holds process keys (events ++ (DiskStore.run process tree calls).1)
      (DiskStore.run process tree calls).2 := by
  induction calls generalizing events tree with
  | nil => rwa [show DiskStore.run process tree [] = ([], tree) from rfl, List.append_nil]
  | cons call rest inductionHypothesis =>
      rw [List.forall_mem_cons] at members
      have later := inductionHypothesis members.2 (holds.perform apart members.1).2
      rwa [List.append_assoc] at later

end Runs

/-- What a run of a store on disk amounts to.  A further call answers according to
the last successful `put` of its key that no `delete` follows, and that content is
what stands at the place of the key.  A file on the way to a key, which obstructs
it, is that of another key or a temporary file that was left behind.  A further
`put` that fails changes the content of no key.  A temporary file is there only if
a `put` failed to take it away; after a further `put` of its key it is there only
if that `put` failed as well, to take it away or before it came to that. -/
structure IsMap (process : Nat) (keys : Set String) (events : List DiskEvent) (tree : FileTree) :
    Prop where
  answers : ∀ call : DiskCall, call.key ∈ keys →
    IsRight events tree call (perform process tree call).1
  contents : ∀ key ∈ keys, tree.content? (FilePath.ofText key).place = lastStored events key
  obstacles : ∀ key ∈ keys, ∀ place ∈ (FilePath.ofText key).through, ∀ content,
    tree.found? place = some (.file content) →
      IsStored keys events place content ∨ ∃ event ∈ events, LeavesTemporary process place event
  failure : ∀ key ∈ keys, ∀ medium data error,
    (put medium process tree key data).1 = .error error → ∀ other ∈ keys,
      (put medium process tree key data).2.content? (FilePath.ofText other).place =
        tree.content? (FilePath.ofText other).place
  temporaries : ∀ key ∈ keys, ∀ content,
    tree.found? (temporaryPlace process (.ofText key)) = some (.file content) →
      ∃ event ∈ events, LeavesTemporary process (temporaryPlace process (.ofText key)) event
  cleanup : ∀ key ∈ keys, ∀ medium data content,
    (put medium process tree key data).2.found? (temporaryPlace process (.ofText key)) =
      some (.file content) →
        (put medium process tree key data).1 ≠ .ok () ∧
          (medium.removes = false ∨
            tree.found? (temporaryPlace process (.ofText key)) = some (.file content))

/-- Every run of calls on keys that are apart, whatever fails in it, is one of a
map with atomic writes, but that something may obstruct a key without content.
Each call of a run comes after the run of those before it, so what is said of a
further call holds of all of them. -/
theorem run_isMap (process : Nat) (keys : Set String) (apart : KeysApart process keys)
    (tree : FileTree) (admits : Admits process keys tree) (calls : List DiskCall)
    (members : ∀ call ∈ calls, call.key ∈ keys) :
    IsMap process keys (run process tree calls).1 (run process tree calls).2 := by
  have holds := (holds_of_admits admits).run apart members
  rw [List.nil_append] at holds
  refine ⟨?_, ?_, ?_, ?_, ?_, ?_⟩
  · intro call member
    exact (holds.perform apart member).1
  · intro key member
    exact holds.content? member
  · intro key member place inside
    exact holds.clear place ⟨key, member, .inl inside⟩
  · intro key member medium data error failed other otherMember
    refine Option.ext fun content => ?_
    rw [FileTree.content?_eq_some_iff, FileTree.content?_eq_some_iff]
    cases put_spec medium process (run process tree calls).2 key data with
    | inl stored => cases failed.symm.trans stored.1
    | inr fails => exact fails.2.file_iff apart member otherMember
  · intro key member content standing
    cases holds.clear _ ⟨key, member, .inr rfl⟩ content standing with
    | inl isStored =>
        obtain ⟨owner, ownerMember, isPlace, -⟩ := isStored
        exact absurd isPlace (apart.place_ne_temporaryPlace member ownerMember)
    | inr leftBehind => exact leftBehind
  · intro key _ medium data content standing
    cases put_spec medium process (run process tree calls).2 key data with
    | inl stored => cases stored.2.temporary.2.symm.trans standing
    | inr failed =>
        obtain ⟨⟨fault, answer⟩, fails⟩ := failed
        exact ⟨by rw [answer]; exact nofun, fails.leftover standing⟩

theorem admits_empty (process : Nat) (keys : Set String) : Admits process keys .empty := by
  have noFile (place : List String) (content : ByteArray) :
      FileTree.empty.found? place ≠ some (.file content) := by
    unfold FileTree.found?
    split <;> exact nofun
  exact ⟨fun place _ => noFile place, fun _ _ => noFile _⟩

theorem keysApart_pair {process : Nat} {first second : String}
    (below : ¬(FilePath.ofText first).place <+: (FilePath.ofText second).place)
    (above : ¬(FilePath.ofText second).place <+: (FilePath.ofText first).place)
    (besideFirst : temporaryPlace process (.ofText first) ≠ (FilePath.ofText second).place)
    (besideSecond : temporaryPlace process (.ofText second) ≠ (FilePath.ofText first).place) :
    KeysApart process {first, second} := by
  constructor <;> rintro key (rfl | rfl) other (rfl | rfl) differ <;>
    first | assumption | exact absurd rfl differ

/-- Two tiles of one directory. -/
def twoTiles : Set String := {"t/a", "t/b"}

def firstBytes : ByteArray := ⟨#[1]⟩

def laterBytes : ByteArray := ⟨#[2, 3]⟩

/-- A tile is stored and then written anew, but only in part.  Another tile is
neither moved into place nor taken away. -/
def failingCalls : List DiskCall := [
  .put .sound "t/a" firstBytes,
  .put ⟨true, .torn firstBytes, true, true⟩ "t/a" laterBytes,
  .put ⟨true, .complete, false, false⟩ "t/b" laterBytes]

theorem run_isMap_failingCalls :
    KeysApart 7 twoTiles ∧ (∀ call ∈ failingCalls, call.key ∈ twoTiles) ∧
      get (run 7 .empty failingCalls).2 "t/a" = .ok (some firstBytes) ∧
      (run 7 .empty failingCalls).2.content? ["t", "a"] = some firstBytes ∧
      (run 7 .empty failingCalls).2.content? ["t", "b"] = none ∧
      ∃ event ∈ (run 7 .empty failingCalls).1, LeavesTemporary 7 ["t", "b.7.tmp"] event := by
  have first : (FilePath.ofText "t/a").place = ["t", "a"] := by decide +kernel
  have second : (FilePath.ofText "t/b").place = ["t", "b"] := by decide +kernel
  have besideSecond : temporaryPlace 7 (.ofText "t/b") = ["t", "b.7.tmp"] := by decide +kernel
  have apart : KeysApart 7 twoTiles := by
    refine keysApart_pair ?_ ?_ ?_ ?_ <;> decide +kernel
  have members : ∀ call ∈ failingCalls, call.key ∈ twoTiles := by
    rw [failingCalls, List.forall_mem_cons, List.forall_mem_cons, List.forall_mem_singleton]
    exact ⟨.inl rfl, .inl rfl, .inr rfl⟩
  have isMap := run_isMap 7 twoTiles apart .empty (admits_empty 7 twoTiles) failingCalls members
  have stored : lastStored (run 7 .empty failingCalls).1 "t/a" = some firstBytes := by
    decide +kernel
  refine ⟨apart, members, ?_, ?_, ?_, ?_⟩
  · cases isMap.answers (.get "t/a") (.inl rfl) with
    | inl answer => exact answer.trans (congrArg Except.ok stored)
    | inr obstructed => cases stored.symm.trans obstructed.1
  · rw [← first, isMap.contents "t/a" (.inl rfl), stored]
  · rw [← second, isMap.contents "t/b" (.inr rfl)]
    decide +kernel
  · rw [← besideSecond]
    refine isMap.temporaries "t/b" (.inr rfl) laterBytes (FileTree.content?_eq_some_iff.mp ?_)
    decide +kernel

/-- Every look at a key is answered by what was stored last, without a fault. -/
def AnswersPlainly (process : Nat) (keys : Set String) : Prop :=
  ∀ calls : List DiskCall, (∀ call ∈ calls, call.key ∈ keys) → ∀ key ∈ keys,
    get (run process .empty calls).2 key = .ok (lastStored (run process .empty calls).1 key)

/-- Keys one of which leads through the place of the other. -/
def crossingKeys : Set String := {"b", "b/../c"}

/-- Keys one of which leads through the temporary place of the other. -/
def sharedKeys : Set String := {"t/b", "t/b.7.tmp/c"}

theorem not_forall_answersPlainly :
    (KeysApart 7 crossingKeys ∧ ¬AnswersPlainly 7 crossingKeys) ∧
      KeysApart 7 sharedKeys ∧ ¬AnswersPlainly 7 sharedKeys := by
  refine ⟨⟨?_, fun plainly => ?_⟩, ?_, fun plainly => ?_⟩
  · refine keysApart_pair ?_ ?_ ?_ ?_ <;> decide +kernel
  · have answer := plainly [.put .sound "b" firstBytes]
      (List.forall_mem_singleton.mpr (.inl rfl)) "b/../c" (.inr rfl)
    cases answer
  · refine keysApart_pair ?_ ?_ ?_ ?_ <;> decide +kernel
  · have answer := plainly [.put ⟨true, .complete, false, false⟩ "t/b" laterBytes]
      (List.forall_mem_singleton.mpr (.inl rfl)) "t/b.7.tmp/c" (.inr rfl)
    cases answer

end DiskStore

end TileAtlas
