import TileAtlas.Cache.Key
import Mathlib.Data.List.Basic
import Mathlib.Data.List.Induction

/-!
Contract: what a key tells of its tile.

Owns:
- the number that a row of digits denotes, as the inverse of writing it;
- `key_isOk` and `key_eq_key_iff`: the layouts with directories always give a
  key, and keys are equal when directories, levels, rows and columns are;
- `basePath_eq_iff`, what the directories tell of the dimension values.

Does not own: the names in front.  They are written as they are and may hold
separators, so the place is read from the end of a key.
-/

namespace TileAtlas

namespace KeyLayout

/-! ## Digits -/

/-- The number of a digit of the bases up to sixteen. -/
def digitValue (digit : Char) : Nat :=
  if digit.isDigit then digit.toNat - '0'.toNat else digit.toNat - 'a'.toNat + 10

/-- The number that a row of digits denotes. -/
def rowValue (base : Nat) (row : List Char) : Nat :=
  row.foldl (fun value digit => base * value + digitValue digit) 0

theorem digitValue_digitChar : ∀ {digit : Nat}, digit < 16 → digitValue digit.digitChar = digit := by
  decide

theorem rowValue_append_singleton (base : Nat) (row : List Char) (digit : Char) :
    rowValue base (row ++ [digit]) = base * rowValue base row + digitValue digit := by
  simp [rowValue]

/-- Reading what was written gives the number back. -/
theorem rowValue_toDigits {base : Nat} (several : 1 < base) (few : base ≤ 16) (value : Nat) :
    rowValue base (Nat.toDigits base value) = value := by
  induction value using Nat.strongRecOn with
  | ind value inductionHypothesis =>
      by_cases single : value < base
      · rw [Nat.toDigits_of_lt_base single]
        show base * 0 + digitValue value.digitChar = value
        rw [digitValue_digitChar (by omega), Nat.mul_zero, Nat.zero_add]
      · have smaller : value / base < value := Nat.div_lt_self (by omega) several
        have lastDigit : value % base < base := Nat.mod_lt value (by omega)
        rw [Nat.toDigits_of_base_le several (by omega), rowValue_append_singleton,
          inductionHypothesis (value / base) smaller, digitValue_digitChar (by omega)]
        exact Nat.div_add_mod value base

/-- Zeros in front do not change the number. -/
theorem rowValue_padZeros (base width : Nat) (row : List Char) :
    rowValue base (padZeros width row) = rowValue base row := by
  have zeros : ∀ count : Nat, rowValue base (List.replicate count '0') = 0 := by
    intro count
    induction count with
    | zero => rfl
    | succ count inductionHypothesis =>
        rw [List.replicate_succ', rowValue_append_singleton, inductionHypothesis]
        rfl
  unfold padZeros
  rw [rowValue, List.foldl_append]
  exact congrArg (fun start => row.foldl _ start) (zeros (width - row.length))

/-- A way to write numbers that tells them apart and needs no separator. -/
structure IsNaming (name : Nat → List Char) : Prop where
  injective : Function.Injective name
  free : ∀ value, '/' ∉ name value

theorem separator_not_mem_toDigits {base : Nat} (several : 1 < base) (value : Nat) :
    '/' ∉ Nat.toDigits base value := by
  induction value using Nat.strongRecOn with
  | ind value inductionHypothesis =>
      by_cases single : value < base
      · rw [Nat.toDigits_of_lt_base single, List.mem_singleton]
        exact (Nat.digitChar_ne '/' (by decide)).symm
      · have smaller : value / base < value := Nat.div_lt_self (by omega) several
        rw [Nat.toDigits_of_base_le several (by omega), List.mem_append, List.mem_singleton]
        rintro (inFront | isLast)
        · exact inductionHypothesis (value / base) smaller inFront
        · exact Nat.digitChar_ne '/' (by decide) isLast.symm

theorem isNaming_padZeros (base : Nat) (several : 1 < base) (few : base ≤ 16) (width : Nat) :
    IsNaming fun value => padZeros width (Nat.toDigits base value) where
  injective := by
    intro first second same
    have read := congrArg (rowValue base) same
    simpa only [rowValue_padZeros, rowValue_toDigits several few] using read
  free := by
    intro value
    simp [padZeros, separator_not_mem_toDigits several value]

theorem isNaming_decimal : IsNaming decimal := by
  -- a row of digits is one that is padded to no width
  have padded := isNaming_padZeros 10 (by decide) (by decide) 0
  simp only [padZeros, Nat.zero_sub, List.replicate_zero, List.nil_append] at padded
  exact padded

theorem IsNaming.mark {name : Nat → List Char} (naming : IsNaming name) (mark : Char)
    (noSeparator : mark ≠ '/') : IsNaming fun value => mark :: name value where
  injective := List.cons_injective.comp naming.injective
  free := by
    intro value
    simp [noSeparator.symm, naming.free value]

/-! ## Places -/

/-- What stands behind the last separator, and what stands in front of it. -/
theorem splitAtLast {first second last other : List Char}
    (free : '/' ∉ last) (otherFree : '/' ∉ other)
    (same : first ++ '/' :: last = second ++ '/' :: other) : first = second ∧ last = other := by
  rcases List.append_eq_append_iff.mp same with
    ⟨between, rfl, rest⟩ | ⟨between, rfl, rest⟩
  · cases between with
    | nil => simpa using rest
    | cons head between =>
        have inLast : '/' ∈ last := by simp_all
        exact absurd inLast free
  · cases between with
    | nil => simpa [eq_comm] using rest
    | cons head between =>
        have inOther : '/' ∈ other := by simp_all
        exact absurd inOther otherFree

/-- A path that ends in the names of three numbers gives the numbers away, and
what stands in front of them. -/
theorem path_eq_iff {level row column : Nat → List Char} (levels : IsNaming level)
    (rows : IsNaming row) (columns : IsNaming column)
    {front otherFront ending : List Char} {z x y otherZ otherX otherY : Nat} :
    front ++ '/' :: level z ++ '/' :: row y ++ '/' :: column x ++ ending =
        otherFront ++ '/' :: level otherZ ++ '/' :: row otherY ++ '/' :: column otherX ++ ending ↔
      front = otherFront ∧ z = otherZ ∧ x = otherX ∧ y = otherY := by
  constructor
  · intro same
    obtain ⟨aboveColumn, sameColumn⟩ :=
      splitAtLast (columns.free x) (columns.free otherX) (List.append_cancel_right same)
    obtain ⟨aboveRow, sameRow⟩ := splitAtLast (rows.free y) (rows.free otherY) aboveColumn
    obtain ⟨aboveLevel, sameLevel⟩ := splitAtLast (levels.free z) (levels.free otherZ) aboveRow
    exact ⟨aboveLevel, levels.injective sameLevel, columns.injective sameColumn,
      rows.injective sameRow⟩
  · rintro ⟨rfl, rfl, rfl, rfl⟩
    rfl

/-- Components without separators are told apart when each begins with one. -/
theorem components_injective {first second : List (List Char)}
    (free : ∀ component ∈ first, '/' ∉ component)
    (otherFree : ∀ component ∈ second, '/' ∉ component)
    (same : first.flatMap (fun component => '/' :: component) =
      second.flatMap (fun component => '/' :: component)) : first = second := by
  induction first using List.reverseRecOn generalizing second with
  | nil =>
      cases second with
      | nil => rfl
      | cons head tail => simp at same
  | append_singleton first last inductionHypothesis =>
      rcases List.eq_nil_or_concat second with rfl | ⟨second, other, rfl⟩
      · simp at same
      · rw [List.concat_eq_append] at same otherFree ⊢
        simp only [List.flatMap_append, List.flatMap_singleton] at same
        obtain ⟨inFront, atEnd⟩ :=
          splitAtLast (free last (by simp)) (otherFree other (by simp)) same
        have firstFree : ∀ component ∈ first, '/' ∉ component :=
          fun component isIn => free component (by simp [isIn])
        have secondFree : ∀ component ∈ second, '/' ∉ component :=
          fun component isIn => otherFree component (by simp [isIn])
        rw [inductionHypothesis firstFree secondFree inFront, atEnd]

/-! ## Directories -/

theorem separator_not_mem_sanitize (value : List Char) : '/' ∉ sanitize value := by
  intro isIn
  obtain ⟨char, -, isSeparator⟩ := List.mem_map.mp isIn
  by_cases isMarked : char = '/' ∨ char = '.'
  · rw [if_pos isMarked] at isSeparator
    exact absurd isSeparator (by decide)
  · rw [if_neg isMarked] at isSeparator
    exact isMarked (.inl isSeparator)

/-- The dimension values of a tile as they stand in a path, in the order of
their declaration. -/
def pathValues (tile : TileCoordinate) : List (List Char) :=
  tile.dimensions.map fun dimension => sanitize dimension.2.toList

theorem separator_not_mem_pathValues (tile : TileCoordinate) :
    ∀ value ∈ (pathValues tile).reverse, '/' ∉ value := by
  intro value isIn
  obtain ⟨dimension, -, rfl⟩ := List.mem_map.mp (List.mem_reverse.mp isIn)
  exact separator_not_mem_sanitize dimension.2.toList

theorem basePath_eq (base : String) (tile : TileCoordinate) :
    basePath base tile =
      base.toList ++ '/' :: tile.tileset.toList ++ '/' :: tile.grid.toList ++
        (pathValues tile).reverse.flatMap fun value => '/' :: value := by
  rw [basePath, pathValues, ← List.map_reverse, List.flatMap_map]

/-- Under the same names, the directories of two tiles differ exactly when
their dimension values do. -/
theorem basePath_eq_iff {base : String} {tile other : TileCoordinate}
    (sameTileset : tile.tileset = other.tileset) (sameGrid : tile.grid = other.grid) :
    basePath base tile = basePath base other ↔ pathValues tile = pathValues other := by
  rw [basePath_eq, basePath_eq, sameTileset, sameGrid]
  constructor
  · intro same
    exact List.reverse_injective (components_injective (separator_not_mem_pathValues tile)
      (separator_not_mem_pathValues other) (List.append_cancel_left same))
  · intro same
    rw [same]

/-- The layout is no template: it puts tiles into directories. -/
def HasDirectories : KeyLayout → Prop
  | .tileCache _ | .arcGis _ => True
  | .template _ => False

/-- The directory that all tiles of a layout are below. -/
def base : KeyLayout → String
  | .tileCache base | .arcGis base => base
  | .template _ => ""

section Keys

variable {α : Type} [Scalar α] {layout : KeyLayout} (directories : layout.HasDirectories)

include directories

theorem key_isOk (tile : TileCoordinate) (pyramid : Pyramid α) (extension : Option String) :
    ∃ name, layout.key tile pyramid extension = .ok name := by
  cases layout with
  | tileCache base => exact ⟨_, rfl⟩
  | arcGis base => exact ⟨_, rfl⟩
  | template text => exact directories.elim

/-- Keys are equal exactly when the directories and the places in the pyramid
are. -/
theorem key_eq_key_iff (tile other : TileCoordinate) (pyramid otherPyramid : Pyramid α)
    (extension : Option String) :
    layout.key tile pyramid extension = layout.key other otherPyramid extension ↔
      basePath layout.base tile = basePath layout.base other ∧
        tile.z = other.z ∧ tile.x = other.x ∧ tile.y = other.y := by
  cases layout with
  | tileCache base =>
      rw [key, key, Except.ok.injEq, String.ofList_inj]
      exact path_eq_iff isNaming_decimal isNaming_decimal isNaming_decimal
  | arcGis base =>
      have levels := (isNaming_padZeros 10 (by decide) (by decide) 2).mark 'L' (by decide)
      have rows := (isNaming_padZeros 16 (by decide) (by decide) 8).mark 'R' (by decide)
      have columns := (isNaming_padZeros 16 (by decide) (by decide) 8).mark 'C' (by decide)
      rw [key, key, Except.ok.injEq, String.ofList_inj]
      exact path_eq_iff levels rows columns
  | template text => exact directories.elim

/-- Tiles of one key are the same tile of the pyramid, whatever the names and
dimension values in front are. -/
theorem place_eq_of_key_eq {tile other : TileCoordinate} {pyramid : Pyramid α}
    {extension : Option String} {name : String}
    (tileKey : layout.key tile pyramid extension = .ok name)
    (otherKey : layout.key other pyramid extension = .ok name) :
    tile.z = other.z ∧ tile.x = other.x ∧ tile.y = other.y :=
  ((key_eq_key_iff directories tile other pyramid pyramid extension).mp
    (tileKey.trans otherKey.symm)).2

/-- Tiles have keys, equal keys belong to equal levels, columns and rows, and
under the same names the keys are equal exactly when the dimension values are
written alike as well. -/
theorem key_separates_tiles (tile other : TileCoordinate) (pyramid otherPyramid : Pyramid α)
    (extension : Option String) :
    ∃ name otherName, layout.key tile pyramid extension = .ok name ∧
      layout.key other otherPyramid extension = .ok otherName ∧
      (name = otherName → tile.z = other.z ∧ tile.x = other.x ∧ tile.y = other.y) ∧
      (tile.tileset = other.tileset → tile.grid = other.grid →
        (name = otherName ↔ tile.z = other.z ∧ tile.x = other.x ∧ tile.y = other.y ∧
          pathValues tile = pathValues other)) := by
  obtain ⟨name, tileKey⟩ := key_isOk directories tile pyramid extension
  obtain ⟨otherName, otherKey⟩ := key_isOk directories other otherPyramid extension
  have same := key_eq_key_iff directories tile other pyramid otherPyramid extension
  rw [tileKey, otherKey, Except.ok.injEq] at same
  refine ⟨name, otherName, tileKey, otherKey, fun sameKey => (same.mp sameKey).2, ?_⟩
  intro sameTileset sameGrid
  rw [same, basePath_eq_iff sameTileset sameGrid]
  constructor
  · rintro ⟨values, level, column, row⟩
    exact ⟨level, column, row, values⟩
  · rintro ⟨level, column, row, values⟩
    exact ⟨values, level, column, row⟩

end Keys

/-- A tile with a separator in its names and in one of its dimension values. -/
def markedTile (value : String) : TileCoordinate :=
  ⟨"a/b", "g", 3, 255, 16, [("time", value), ("layer", "")]⟩

/-- A separator and a dot are written alike, another character is not. -/
theorem key_separates_tiles_marked :
    (arcGis "root").HasDirectories ∧
      (∃ name, (arcGis "root").key (markedTile "1/2") (Pyramid.webMercator : Pyramid Float) none =
          .ok name ∧
        (arcGis "root").key (markedTile "1.2") (Pyramid.wgs84 : Pyramid Float) none = .ok name) ∧
      (arcGis "root").key (markedTile "1/2") (Pyramid.webMercator : Pyramid Float) none ≠
        (arcGis "root").key (markedTile "1-2") (Pyramid.wgs84 : Pyramid Float) none := by
  have directories : (arcGis "root").HasDirectories := trivial
  obtain ⟨name, dotted, isKey, isDotted, -, alike⟩ :=
    key_separates_tiles directories (markedTile "1/2") (markedTile "1.2")
      (Pyramid.webMercator : Pyramid Float) Pyramid.wgs84 none
  obtain ⟨_, dashed, isKey', isDashed, -, apart⟩ :=
    key_separates_tiles directories (markedTile "1/2") (markedTile "1-2")
      (Pyramid.webMercator : Pyramid Float) Pyramid.wgs84 none
  obtain rfl := (alike rfl rfl).mpr (by decide)
  refine ⟨directories, ⟨name, isKey, isDotted⟩, fun same => ?_⟩
  rw [isKey', isDashed, Except.ok.injEq, apart rfl rfl] at same
  exact absurd same (by decide)

end KeyLayout

end TileAtlas
