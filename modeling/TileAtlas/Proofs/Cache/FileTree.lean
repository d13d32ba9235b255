import TileAtlas.Cache.FileTree
import TileAtlas.Proofs.Sequence

/-!
Contract: where paths lead, and what file operations leave as it is.

Owns:
- `FilePath.place`, the place that a path names, and `FilePath.through`, the
  directories that must be there to reach it;
- `FileTree.find_eq_file_iff`, when a path leads to a file;
- `FileTree.Obstructs` and `FileTree.Obstructs.of_find`, what else than a missing
  file or directory keeps a path from being found;
- `FileTree.Withholds`, the same for a path to a file;
- `FileTree.GrowsAt`, a place at which at most a directory is made, and
  `makeDirectories_grows`.
-/

namespace TileAtlas

namespace PathPart

/-- Where a component leads from a directory. -/
def step (place : List String) : PathPart → List String
  | .parent => place.dropLast
  | .child name => place ++ [name]

/-- The name of the component is not too long. -/
def Fits : PathPart → Prop
  | .parent => True
  | .child name => name.utf8ByteSize ≤ FileTree.longestName

end PathPart

namespace FileTree

/-! ## Places -/

/-- The place at the end of components. -/
def destination (start : List String) (parts : List PathPart) : List String :=
  parts.foldl PathPart.step start

/-- The places that components lead to one after another. -/
def reached (start : List String) : List PathPart → List (List String)
  | [] => []
  | part :: rest => part.step start :: reached (part.step start) rest

/-- The places that components lead on from. -/
def passed (start : List String) : List PathPart → List (List String)
  | [] => []
  | part :: rest => start :: passed (part.step start) rest

theorem passed_eq_cons {start : List String} {parts : List PathPart} (given : parts ≠ []) :
    passed start parts = start :: reached start parts.dropLast := by
  induction parts generalizing start with
  | nil => exact absurd rfl given
  | cons part rest inductionHypothesis =>
      cases rest with
      | nil => rfl
      | cons next rest =>
          rw [passed, inductionHypothesis (List.cons_ne_nil next rest)]
          rfl

/-! ## Entries -/

section Entries

variable (tree : FileTree) {place : List String} (other : List String)

theorem found?_remove (place : List String) :
    (tree.remove place).found? other =
      if other ≠ [] ∧ other = place then none else tree.found? other := by
  unfold found?
  by_cases isRoot : other = []
  · rw [if_pos isRoot, if_pos isRoot, if_neg fun both => both.1 isRoot]
  · rw [if_neg isRoot, if_neg isRoot]
    simp only [ne_eq, isRoot, not_false_eq_true, true_and]
    unfold remove
    induction tree.entries with
    | nil => simp
    | cons head tail inductionHypothesis =>
        by_cases isHead : head.1 = place
        · rw [List.filter_cons_of_neg (by simpa using isHead), inductionHypothesis,
            List.lookup_cons]
          by_cases same : other = place
          · rw [if_pos same, if_pos same]
          · have apart : (other == head.1) = false := by simpa [isHead] using same
            rw [if_neg same, if_neg same, apart]
        · rw [List.filter_cons_of_pos (by simpa using isHead), List.lookup_cons, List.lookup_cons,
            inductionHypothesis]
          by_cases same : other = place
          · subst same
            have apart : (other == head.1) = false := by simpa using fun equal => isHead equal.symm
            rw [apart, if_pos rfl]
          · simp only [if_neg same]

theorem found?_insert (notRoot : place ≠ []) (entry : FileEntry) :
    (tree.insert place entry).found? other =
      if other = place then some entry else tree.found? other := by
  by_cases same : other = place
  · subst same
    rw [if_pos rfl, found?, if_neg notRoot]
    exact List.lookup_cons_self
  · have kept := found?_remove tree other place
    rw [if_neg fun both => same both.2] at kept
    rw [if_neg same, ← kept]
    unfold found?
    have apart : (other == place) = false := by simpa using same
    by_cases isRoot : other = []
    · rw [if_pos isRoot, if_pos isRoot]
    · rw [if_neg isRoot, if_neg isRoot, insert, List.lookup_cons, apart]

theorem found?_root : tree.found? [] = some .directory := if_pos rfl

end Entries

/-! ## Following paths -/

/-- What stops one on the way through places along components, other than a
directory that is missing, by the fault that it leads to. -/
inductive Stops (tree : FileTree) (places : List (List String)) (parts : List PathPart) :
    FileFault → Prop where
  | file {place : List String} {content : ByteArray} (inside : place ∈ places)
      (standing : tree.found? place = some (.file content)) : Stops tree places parts .notADirectory
  | name {part : PathPart} (member : part ∈ parts) (long : ¬part.Fits) :
      Stops tree places parts .nameTooLong

section Following

variable {tree : FileTree} {start place : List String} {part : PathPart} {parts : List PathPart}
  {fault : FileFault}

theorem follow_eq_ok_iff : tree.follow start part = .ok place ↔
    tree.found? start = some .directory ∧ part.Fits ∧ place = part.step start := by
  cases part with
  | parent =>
      unfold follow PathPart.Fits
      rcases tree.found? start with _ | (_ | _) <;> simp [PathPart.step, eq_comm]
  | child name =>
      unfold follow child PathPart.Fits
      by_cases long : longestName < name.utf8ByteSize
      · have notFits : ¬name.utf8ByteSize ≤ longestName := Nat.not_le.mpr long
        rcases tree.found? start with _ | (_ | _) <;> simp [long, notFits]
      · have fits : name.utf8ByteSize ≤ longestName := Nat.not_lt.mp long
        rcases tree.found? start with _ | (_ | _) <;> simp [long, fits, PathPart.step, eq_comm]

theorem Stops.mono {places morePlaces : List (List String)} {moreParts : List PathPart}
    (stops : tree.Stops places parts fault) (morePlace : places ⊆ morePlaces)
    (morePart : parts ⊆ moreParts) : tree.Stops morePlaces moreParts fault := by
  cases stops with
  | file inside standing => exact .file (morePlace inside) standing
  | name member long => exact .name (morePart member) long

/-- Where no directory is missing, a component is stopped by a file, or by a name
that is too long. -/
theorem follow_eq_error (failed : tree.follow start part = .error fault) :
    fault = .notFound ∨ tree.Stops [start] [part] fault := by
  cases standing : tree.found? start with
  | none =>
      refine .inl ?_
      cases part <;> simpa [follow, child, standing, eq_comm] using failed
  | some entry =>
      refine .inr ?_
      cases entry with
      | file content =>
          have isFault : fault = .notADirectory := by
            cases part <;> simpa [follow, child, standing, eq_comm] using failed
          rw [isFault]
          exact .file (List.mem_singleton_self start) standing
      | directory =>
          by_cases fits : part.Fits
          · cases (follow_eq_ok_iff.mpr ⟨standing, fits, rfl⟩).symm.trans failed
          · have isFault : fault = .nameTooLong := by
              cases part with
              | parent => exact absurd trivial fits
              | child name =>
                  have long : longestName < name.utf8ByteSize := Nat.not_le.mp fits
                  simpa [follow, child, standing, long, eq_comm] using failed
            rw [isFault]
            exact .name (List.mem_singleton_self part) fits

theorem foldlM_follow_eq_ok_iff : parts.foldlM tree.follow start = .ok place ↔
    (∀ directory ∈ passed start parts, tree.found? directory = some .directory) ∧
      (∀ part ∈ parts, part.Fits) ∧ place = destination start parts := by
  induction parts generalizing start with
  | nil => simp [passed, destination, pure, Except.pure, eq_comm]
  | cons part rest inductionHypothesis =>
      rw [List.foldlM_cons, passed, List.forall_mem_cons, List.forall_mem_cons]
      constructor
      · intro followed
        obtain ⟨next, first, followed⟩ := bind_eq_ok followed
        obtain ⟨standing, fits, rfl⟩ := follow_eq_ok_iff.mp first
        obtain ⟨directories, restFits, reached⟩ := inductionHypothesis.mp followed
        exact ⟨⟨standing, directories⟩, ⟨fits, restFits⟩, reached⟩
      · intro ⟨⟨standing, directories⟩, ⟨fits, restFits⟩, reached⟩
        rw [follow_eq_ok_iff.mpr ⟨standing, fits, rfl⟩]
        exact inductionHypothesis.mpr ⟨directories, restFits, reached⟩

theorem foldlM_follow_eq_error (failed : parts.foldlM tree.follow start = .error fault) :
    fault = .notFound ∨ tree.Stops (passed start parts) parts fault := by
  induction parts generalizing start with
  | nil => cases failed
  | cons part rest inductionHypothesis =>
      rw [List.foldlM_cons] at failed
      cases followed : tree.follow start part with
      | error other =>
          rw [followed] at failed
          cases failed
          refine (follow_eq_error followed).imp_right fun stops => ?_
          exact stops.mono (List.cons_subset_cons _ (List.nil_subset _))
            (List.cons_subset_cons _ (List.nil_subset _))
      | ok next =>
          rw [followed] at failed
          obtain ⟨-, -, rfl⟩ := follow_eq_ok_iff.mp followed
          refine (inductionHypothesis failed).imp_right fun stops => ?_
          exact stops.mono (List.subset_cons_self _ _) (List.subset_cons_self _ _)

end Following

/-! ## Growth -/

/-- At a place nothing changes, except that a directory may be made there if the
place is one of those given. -/
def GrowsAt (tree next : FileTree) (places : List (List String)) (place : List String) : Prop :=
  next.found? place = tree.found? place ∨
    place ∈ places ∧ tree.found? place = none ∧ next.found? place = some .directory

section Growth

variable {tree middle next : FileTree} {places : List (List String)} {place : List String}

theorem GrowsAt.refl (tree : FileTree) (places : List (List String)) (place : List String) :
    tree.GrowsAt tree places place :=
  .inl rfl

theorem GrowsAt.trans (first : tree.GrowsAt middle places place)
    (second : middle.GrowsAt next places place) : tree.GrowsAt next places place := by
  cases first with
  | inl same =>
      cases second with
      | inl sameAgain => exact .inl (sameAgain.trans same)
      | inr made => exact .inr ⟨made.1, same.symm.trans made.2.1, made.2.2⟩
  | inr made =>
      cases second with
      | inl same => exact .inr ⟨made.1, made.2.1, same.trans made.2.2⟩
      | inr madeAgain => cases made.2.2.symm.trans madeAgain.2.1

theorem GrowsAt.mono {larger : List (List String)} (subset : places ⊆ larger)
    (grows : tree.GrowsAt next places place) : tree.GrowsAt next larger place :=
  grows.imp_right fun made => ⟨subset made.1, made.2⟩

theorem GrowsAt.directory (grows : tree.GrowsAt next places place)
    (standing : tree.found? place = some .directory) :
    next.found? place = some .directory := by
  cases grows with
  | inl same => exact same.trans standing
  | inr made => exact made.2.2

theorem GrowsAt.file_iff (grows : tree.GrowsAt next places place) {content : ByteArray} :
    next.found? place = some (.file content) ↔ tree.found? place = some (.file content) := by
  cases grows with
  | inl same => rw [same]
  | inr made => simp [made.2.1, made.2.2]

/-- Entering a component makes at most the directory that it leads to. -/
theorem enter_grows {part : PathPart} {nextPlace : List String}
    (entered : enter (tree, place) part = .ok (next, nextPlace)) :
    nextPlace = part.step place ∧ ∀ other, tree.GrowsAt next [nextPlace] other := by
  cases part with
  | parent =>
      unfold enter at entered
      cases followed : tree.follow place .parent with
      | error fault => simp [followed, Except.map] at entered
      | ok up =>
          simp only [followed, Except.map, Except.ok.injEq, Prod.mk.injEq] at entered
          obtain ⟨rfl, rfl⟩ := entered
          exact ⟨(follow_eq_ok_iff.mp followed).2.2, GrowsAt.refl tree _⟩
  | child name =>
      obtain ⟨down, followed, entered⟩ := bind_eq_ok entered
      obtain ⟨-, -, isDown⟩ := follow_eq_ok_iff.mp (show tree.follow place (.child name) = .ok down
        from followed)
      have notRoot : down ≠ [] := by
        rw [isDown]
        exact List.append_ne_nil_of_right_ne_nil _ (List.cons_ne_nil name [])
      simp only at entered
      cases standing : tree.found? down with
      | none =>
          simp only [standing] at entered
          cases entered
          refine ⟨isDown, fun other => ?_⟩
          unfold GrowsAt
          rw [found?_insert tree other notRoot]
          by_cases same : other = nextPlace
          · subst same
            exact .inr ⟨List.mem_singleton_self other, standing, if_pos rfl⟩
          · exact .inl (if_neg same)
      | some entry =>
          cases entry with
          | directory =>
              simp only [standing] at entered
              cases entered
              exact ⟨isDown, GrowsAt.refl tree _⟩
          | file content =>
              simp only [standing] at entered
              cases entered

/-- Whether or not all directories are made, nothing else changes. -/
theorem makeDirectories_grows (tree : FileTree) (place : List String) (parts : List PathPart)
    (other : List String) :
    tree.GrowsAt (tree.makeDirectories place parts).2 (reached place parts) other := by
  induction parts generalizing tree place with
  | nil => exact GrowsAt.refl tree _ other
  | cons part rest inductionHypothesis =>
      unfold makeDirectories reached
      cases entered : enter (tree, place) part with
      | error fault => exact GrowsAt.refl tree _ other
      | ok state =>
          obtain ⟨isNext, grows⟩ := enter_grows entered
          refine ((grows other).mono ?_).trans ((inductionHypothesis state.1 state.2).mono ?_)
          · rw [isNext]
            exact List.cons_subset_cons _ (List.nil_subset _)
          · rw [isNext]
            exact List.subset_cons_self _ _

end Growth

/-! ## Files -/

/-- The places that components lead through, from the root on. -/
def through (parts : List PathPart) : List (List String) := [] :: reached [] parts.dropLast

section Files

variable {tree next : FileTree} {place : List String} {parts : List PathPart}

theorem forall_through_iff :
    (∀ directory ∈ through parts, tree.found? directory = some .directory) ↔
      ∀ directory ∈ passed [] parts, tree.found? directory = some .directory := by
  by_cases given : parts = []
  · subst given
    exact iff_of_true (List.forall_mem_singleton.mpr (found?_root tree)) (List.forall_mem_nil _)
  · rw [through, passed_eq_cons given]

theorem mem_through_of_mem_passed (member : place ∈ passed [] parts) : place ∈ through parts := by
  by_cases given : parts = []
  · subst given
    cases member
  · rwa [through, ← passed_eq_cons given]

theorem locate_eq_ok_iff : tree.locate parts = .ok place ↔
    (∀ directory ∈ through parts, tree.found? directory = some .directory) ∧
      (∀ part ∈ parts, part.Fits) ∧ place = destination [] parts := by
  rw [forall_through_iff]
  exact foldlM_follow_eq_ok_iff

theorem placeForFile_eq_ok_iff : tree.placeForFile parts = .ok place ↔
    tree.locate parts = .ok place ∧ tree.found? place ≠ some .directory := by
  unfold placeForFile
  cases tree.locate parts with
  | error fault => exact iff_of_false nofun nofun
  | ok located =>
      simp only [bind, Except.bind]
      split
      next standing =>
        refine iff_of_false nofun ?_
        rintro ⟨same, free⟩
        cases same
        exact free standing
      next free =>
        constructor
        · intro same
          cases same
          exact ⟨rfl, free⟩
        · exact fun both => both.1

theorem writeFile_eq_ok_iff {content : ByteArray} : tree.writeFile parts content = .ok next ↔
    tree.locate parts = .ok (destination [] parts) ∧
      tree.found? (destination [] parts) ≠ some .directory ∧
        next = tree.insert (destination [] parts) (.file content) := by
  unfold writeFile
  constructor
  · intro written
    obtain ⟨place, placed, written⟩ := bind_eq_ok written
    obtain ⟨located, free⟩ := placeForFile_eq_ok_iff.mp placed
    obtain rfl := (locate_eq_ok_iff.mp located).2.2
    cases written
    exact ⟨located, free, rfl⟩
  · intro ⟨located, free, isNext⟩
    rw [placeForFile_eq_ok_iff.mpr ⟨located, free⟩, isNext]
    rfl

end Files

end FileTree

namespace FilePath

/-- The place that a path names. -/
def place (path : FilePath) : List String := FileTree.destination [] path.parts

/-- The places that a path leads through, from the root on. -/
def through (path : FilePath) : List (List String) := FileTree.through path.parts

/-- The path as a whole can name a file. -/
structure NamesFile (path : FilePath) : Prop where
  valid : path.isInvalid = false
  given : path.isGiven = true
  short : path.length ≤ FileTree.longestPath
  ending : path.namesDirectory = false
  fits : ∀ part ∈ path.parts, part.Fits

end FilePath

namespace FileTree

/-- What keeps a path from being followed to its end, by the fault that it leads
to: a name that is invalid, a path that is too long, or something on the way. -/
inductive Obstructs (tree : FileTree) (path : FilePath) : FileFault → Prop where
  | invalid (isInvalid : path.isInvalid = true) : Obstructs tree path .invalidName
  | long (tooLong : longestPath < path.length) : Obstructs tree path .nameTooLong
  | stops {fault : FileFault} (stops : tree.Stops path.through path.parts fault) :
      Obstructs tree path fault

/-- What keeps a path from being used as that of a file: an obstacle, or a directory
at its end. -/
inductive Withholds (tree : FileTree) (path : FilePath) : FileFault → Prop where
  | obstructs {fault : FileFault} (obstructs : tree.Obstructs path fault) :
      Withholds tree path fault
  | directory (standing : tree.found? path.place = some .directory) :
      Withholds tree path .isADirectory

section Paths

variable {tree next : FileTree} {path : FilePath} {place : List String} {content : ByteArray}
  {fault : FileFault}

theorem Obstructs.ne_notFound (obstructs : tree.Obstructs path fault) : fault ≠ .notFound := by
  cases obstructs with
  | invalid => exact nofun
  | long => exact nofun
  | stops stops => cases stops <;> exact nofun

theorem find_eq_file_iff : tree.find path = .ok (place, .file content) ↔
    path.NamesFile ∧
      (∀ directory ∈ path.through, tree.found? directory = some .directory) ∧
        place = path.place ∧ tree.found? path.place = some (.file content) := by
  unfold find
  constructor
  · intro found
    split at found
    · cases found
    next valid =>
      split at found
      · cases found
      next given =>
        split at found
        · cases found
        next short =>
          obtain ⟨located, isLocated, found⟩ := bind_eq_ok found
          obtain ⟨directories, fits, rfl⟩ := locate_eq_ok_iff.mp isLocated
          split at found
          · cases found
          next inner standing =>
            split at found
            · cases found
            next ending =>
              cases found
              exact ⟨⟨by simpa using valid, by simpa using given, Nat.not_lt.mp short,
                by simpa using ending, fits⟩, directories, rfl, standing⟩
          · cases found
  · intro ⟨names, directories, isPlace, standing⟩
    have located : tree.locate path.parts = .ok path.place :=
      locate_eq_ok_iff.mpr ⟨directories, names.fits, rfl⟩
    rw [if_neg (by simp [names.valid]), if_neg (by simp [names.given]),
      if_neg (Nat.not_lt.mpr names.short), located, isPlace]
    simp only [bind, Except.bind, standing, names.ending]
    rfl

/-- A path is found again if its directories and its file are still there. -/
theorem find_of_kept (found : tree.find path = .ok (place, .file content))
    (directories : ∀ directory ∈ path.through, tree.found? directory = some .directory →
      next.found? directory = some .directory)
    (kept : next.found? path.place = some (.file content)) :
    next.find path = .ok (place, .file content) := by
  obtain ⟨names, standing, isPlace, -⟩ := find_eq_file_iff.mp found
  exact find_eq_file_iff.mpr
    ⟨names, fun directory member => directories directory member (standing directory member),
      isPlace, kept⟩

theorem find_eq_directory (found : tree.find path = .ok (place, .directory)) :
    tree.found? path.place = some .directory := by
  unfold find at found
  split at found
  · cases found
  · split at found
    · cases found
    · split at found
      · cases found
      · obtain ⟨located, isLocated, found⟩ := bind_eq_ok found
        obtain ⟨-, -, rfl⟩ := locate_eq_ok_iff.mp isLocated
        split at found
        · cases found
        · split at found <;> cases found
        next standing => exact standing

/-- A path without a file at its end is missed, or something obstructs it. -/
theorem Obstructs.of_find (absent : ∀ content, tree.found? path.place ≠ some (.file content))
    (failed : tree.find path = .error fault) :
    fault = .notFound ∨ tree.Obstructs path fault := by
  unfold find at failed
  split at failed
  next isInvalid =>
    cases failed
    exact .inr (.invalid isInvalid)
  · split at failed
    · cases failed
      exact .inl rfl
    · split at failed
      next tooLong =>
        cases failed
        exact .inr (.long tooLong)
      · cases located : tree.locate path.parts with
        | error other =>
            rw [located] at failed
            cases failed
            refine (foldlM_follow_eq_error located).imp_right fun stops => .stops ?_
            exact stops.mono (fun _ => mem_through_of_mem_passed) (List.Subset.refl _)
        | ok place =>
            obtain ⟨-, -, rfl⟩ := locate_eq_ok_iff.mp located
            simp only [located, bind, Except.bind] at failed
            split at failed
            · cases failed
              exact .inl rfl
            next content standing => exact absurd standing (absent content)
            · cases failed

theorem rename_eq_ok {source : List PathPart} (renamed : tree.rename source path = .ok next) :
    ∃ content, tree.found? (destination [] source) = some (.file content) ∧ path.NamesFile ∧
      (∀ directory ∈ path.through, tree.found? directory = some .directory) ∧
      tree.found? path.place ≠ some .directory ∧
      next = (tree.remove (destination [] source)).insert path.place (.file content) := by
  unfold rename at renamed
  obtain ⟨sourcePlace, located, renamed⟩ := bind_eq_ok renamed
  obtain rfl := (locate_eq_ok_iff.mp located).2.2
  simp only at renamed
  split at renamed
  · cases renamed
  next valid =>
    split at renamed
    · cases renamed
    next given =>
      split at renamed
      · cases renamed
      next short =>
        split at renamed
        · cases renamed
        next ending =>
          obtain ⟨target, placed, renamed⟩ := bind_eq_ok renamed
          obtain ⟨isTarget, free⟩ := placeForFile_eq_ok_iff.mp placed
          obtain ⟨directories, fits, rfl⟩ := locate_eq_ok_iff.mp isTarget
          split at renamed
          next content standing =>
            cases renamed
            exact ⟨content, standing, ⟨by simpa using valid, by simpa using given,
              Nat.not_lt.mp short, by simpa using ending, fits⟩, directories, free, rfl⟩
          · cases renamed
          · cases renamed

end Paths

end FileTree

end TileAtlas
