import Mathlib.Data.Set.Function
import TileAtlas.Proofs.Pyramid.Axis
import TileAtlas.Proofs.Tileset

/-!
Contract: tiles that clients count from the upper left corner.

Owns:
- `turned`, an index counted from the other end, and `flip` in its terms;
- `bijOn_flip`: flipping permutes the tiles of a level, whatever the numbers;
- `Tileset.findsFromTop`: no tileset refuses a tile that it resolved;
- `countsFromNorthWest`: in exact numbers, and where tiles fit the pyramid, a
  flipped tile lies at its column from the west and its row from the north;
- `flip_isOriginIndependent`, and pyramids whose tiles are too many or none.
-/

namespace TileAtlas

namespace Pyramid

/-- The place of an index among `count`, from the other end if it is turned. -/
def turned (turns : Bool) (count index : Nat) : Nat := if turns then count - index - 1 else index

theorem turned_lt (turns : Bool) {count index : Nat} (inRange : index < count) :
    turned turns count index < count := by
  unfold turned
  split <;> omega

theorem turned_turned (turns : Bool) {count index : Nat} (inRange : index < count) :
    turned turns count (turned turns count index) = index := by
  unfold turned
  split <;> omega

/-! ## Indices -/

section Indices

variable {α : Type} [Scalar α] {pyramid : Pyramid α} {z columns rows x y : Nat}

/-- The tiles of a level with so many columns and rows. -/
def levelTiles (columns rows : Nat) : Set (Nat × Nat) :=
  {index | index.1 < columns ∧ index.2 < rows}

theorem flip_eq_none (missing : pyramid.levelSize? z = none) : pyramid.flip z x y = none := by
  unfold flip
  rw [missing]
  rfl

theorem flip_eq_some (size : pyramid.levelSize? z = some (columns, rows)) (inX : x < columns)
    (inY : y < rows) :
    pyramid.flip z x y =
      some (turned pyramid.origin.countsFromRight columns x,
        turned (!pyramid.origin.countsFromTop) rows y) := by
  unfold flip turned
  rw [size]
  simp only [Option.bind_eq_bind, Option.bind_some]
  rw [if_neg (by omega)]
  cases pyramid.origin.countsFromTop <;> rfl

theorem isSome_flip_iff (size : pyramid.levelSize? z = some (columns, rows)) :
    (pyramid.flip z x y).isSome = true ↔ x < columns ∧ y < rows := by
  by_cases inside : x < columns ∧ y < rows
  · rw [flip_eq_some size inside.1 inside.2]
    exact iff_of_true rfl inside
  · refine iff_of_false ?_ inside
    unfold flip
    rw [size]
    simp only [Option.bind_eq_bind, Option.bind_some]
    rw [if_pos (by omega)]
    exact Bool.false_ne_true

/-- Flipping permutes the tiles of a level: done twice, it gives back the tile. -/
theorem bijOn_flip (size : pyramid.levelSize? z = some (columns, rows)) :
    Set.BijOn (fun index => pyramid.flip z index.1 index.2) (levelTiles columns rows)
      (some '' levelTiles columns rows) := by
  have flipped {index : Nat × Nat} (inside : index ∈ levelTiles columns rows) :=
    flip_eq_some size inside.1 inside.2
  refine ⟨?_, ?_, ?_⟩
  · intro index inside
    exact ⟨_, ⟨turned_lt _ inside.1, turned_lt _ inside.2⟩, (flipped inside).symm⟩
  · intro first firstInside second secondInside same
    simp only [flipped firstInside, flipped secondInside] at same
    obtain ⟨sameColumn, sameRow⟩ := Prod.mk.inj (Option.some.inj same)
    refine Prod.ext ?_ ?_
    · rw [← turned_turned _ firstInside.1, sameColumn, turned_turned _ secondInside.1]
    · rw [← turned_turned _ firstInside.2, sameRow, turned_turned _ secondInside.2]
  · rintro _ ⟨index, inside, rfl⟩
    have turnedInside : (turned pyramid.origin.countsFromRight columns index.1,
        turned (!pyramid.origin.countsFromTop) rows index.2) ∈ levelTiles columns rows :=
      ⟨turned_lt _ inside.1, turned_lt _ inside.2⟩
    refine ⟨_, turnedInside, (flipped turnedInside).trans ?_⟩
    rw [turned_turned _ inside.1, turned_turned _ inside.2]

end Indices

/-! ## Places -/

/-- The tiles are at least one and as many as a word can count, and together as
long as the span. -/
def IsRowOfTiles (span unit : Rat) : Prop :=
  ∃ count : Nat, 0 < count ∧ count ≤ word32Max ∧ span = count * unit

section Axis

variable {least greatest span unit resolution : Rat} {count index tileSize : Nat}

/-- A row of tiles is counted in full. -/
theorem IsRowOfTiles.eq_tileCount_mul (isRow : IsRowOfTiles span (resolution * tileSize)) :
    span = tileCount span resolution tileSize * (resolution * tileSize) := by
  obtain ⟨count, count_pos, counted, rfl⟩ := isRow
  by_cases unit_eq : resolution * (tileSize : Rat) = 0
  · rw [unit_eq, mul_zero, mul_zero]
  · have resolution_ne : resolution ≠ 0 := left_ne_zero_of_mul unit_eq
    have tileSize_pos : 0 < tileSize :=
      Nat.pos_of_ne_zero fun zero => unit_eq (by rw [zero, Nat.cast_zero, mul_zero])
    have one_le : (1 : Rat) ≤ tileSize := by exact_mod_cast tileSize_pos
    -- a hundredth of a pixel is less than a tile
    have quotient : (count * (resolution * tileSize) - resolution / 100) / (resolution * tileSize) =
        count - 1 / (100 * tileSize) := by
      field_simp
    have share_pos : (0 : Rat) < 1 / (100 * tileSize) := by positivity
    have share_lt : (1 : Rat) / (100 * tileSize) < 1 := by
      rw [div_lt_one (by positivity)]
      linarith
    have ceiling : ⌈(count : Rat) - 1 / (100 * tileSize)⌉ = count := by
      rw [Int.ceil_eq_iff]
      push_cast
      constructor <;> linarith
    have counts := tileCount_rat (count * (resolution * tileSize)) resolution tileSize
    rw [quotient, ceiling] at counts
    have same : tileCount (count * (resolution * tileSize)) resolution tileSize = count := by
      omega
    rw [same]

theorem cast_turned (inRange : index < count) :
    ((count - index - 1 : Nat) : Rat) = count - index - 1 := by
  rw [Nat.sub_sub, Nat.cast_sub inRange]
  push_cast
  ring

variable (fits : greatest - least = count * unit) (inRange : index < count)

include fits inRange

/-- An index from the near end, turned where the row counts from the far end. -/
theorem lowerBound_turned (countsDown : Bool) :
    lowerBound countsDown least greatest unit (turned countsDown count index) =
      least + index * unit := by
  rw [lowerBound_rat, turned]
  cases countsDown with
  | false => simp
  | true =>
      simp only [if_true]
      rw [cast_turned inRange]
      linarith

/-- An index from the far end, turned where the row counts from the near end. -/
theorem lowerBound_turned_not (countsDown : Bool) :
    lowerBound countsDown least greatest unit (turned (!countsDown) count index) =
      greatest - (index + 1) * unit := by
  rw [lowerBound_rat, turned]
  cases countsDown with
  | true => simp
  | false =>
      simp only [Bool.not_false, Bool.false_eq_true, if_true, if_false]
      rw [cast_turned inRange]
      linarith

end Axis

/-- The rectangle at a column from the west and a row from the north. -/
def rectangle (pyramid : Pyramid Rat) (resolution : Rat) (x y : Nat) : Extent Rat where
  minX := pyramid.extent.minX + x * pyramid.unitX resolution
  minY := pyramid.extent.maxY - (y + 1) * pyramid.unitY resolution
  maxX := pyramid.extent.minX + (x + 1) * pyramid.unitX resolution
  maxY := pyramid.extent.maxY - y * pyramid.unitY resolution

/-- Flipped tiles lie at their column from the west and their row from the
north. -/
def CountsFromNorthWest (pyramid : Pyramid Rat) (z : Nat) (resolution : Rat) : Prop :=
  ∀ columns rows, pyramid.levelSize? z = some (columns, rows) →
    ∀ x y, x < columns → y < rows → ∃ column row, pyramid.flip z x y = some (column, row) ∧
      pyramid.tileExtent ⟨z, column, row⟩ = some (pyramid.rectangle resolution x y)

theorem countsFromNorthWest {pyramid : Pyramid Rat} {z : Nat} {resolution : Rat}
    (level : pyramid.resolution? z = some resolution)
    (wide : IsRowOfTiles pyramid.extent.width (pyramid.unitX resolution))
    (high : IsRowOfTiles pyramid.extent.height (pyramid.unitY resolution)) :
    pyramid.CountsFromNorthWest z resolution := by
  intro columns rows size x y inX inY
  have counts := size.symm.trans (levelSize?_of_resolution? level)
  obtain ⟨rfl, rfl⟩ := Prod.mk.inj (Option.some.inj counts)
  have startX : pyramid.startX resolution _ = _ :=
    lowerBound_turned wide.eq_tileCount_mul inX pyramid.origin.countsFromRight
  have startY : pyramid.startY resolution _ = _ :=
    lowerBound_turned_not high.eq_tileCount_mul inY pyramid.origin.countsFromTop
  refine ⟨_, _, flip_eq_some size inX inY, (tileExtent_eq_some_iff level size).mpr
    ⟨turned_lt _ inX, turned_lt _ inY, ?_⟩⟩
  unfold extentAt rectangle
  rw [startX, startY]
  unfold unitX unitY
  congr 1 <;> ring

/-! ## Every pyramid -/

/-- Flipping is defined for the tiles of every level and permutes them. -/
structure FlipsLevels {α : Type} [Scalar α] (pyramid : Pyramid α) : Prop where
  missing : ∀ z, pyramid.levelSize? z = none → ∀ x y, pyramid.flip z x y = none
  defined : ∀ z columns rows, pyramid.levelSize? z = some (columns, rows) →
    ∀ x y, (pyramid.flip z x y).isSome = true ↔ x < columns ∧ y < rows
  permuted : ∀ z columns rows, pyramid.levelSize? z = some (columns, rows) →
    Set.BijOn (fun index => pyramid.flip z index.1 index.2) (levelTiles columns rows)
      (some '' levelTiles columns rows)

theorem flipsLevels {α : Type} [Scalar α] (pyramid : Pyramid α) : pyramid.FlipsLevels where
  missing := fun _ missing _ _ => flip_eq_none missing
  defined := fun _ _ _ size _ _ => isSome_flip_iff size
  permuted := fun _ _ _ size => bijOn_flip size

end Pyramid

namespace Tileset

/-- A tile that was resolved from the upper left corner is found: its key is
formed, and it is never refused as outside the pyramid. -/
def FindsFromTop (tileset : Tileset) : Prop :=
  ∀ z x y tile, tileset.resolve (.fromTop z x y) = .ok tile →
    tileset.Holds tile ∧ (∃ key, tileset.tileKey tile = .ok key) ∧
      ∀ level column row, tileset.request tile ≠ .error (tileset.outside level column row)

theorem holds_of_resolve_fromTop {tileset : Tileset} {z x y : Nat} {tile : TileCoordinate}
    (resolved : tileset.resolve (.fromTop z x y) = .ok tile) : tileset.Holds tile := by
  unfold resolve at resolved
  cases flipped : tileset.pyramid.flip z x y with
  | none => simp [flipped] at resolved
  | some index =>
      simp only [flipped, Except.ok.injEq] at resolved
      subst resolved
      cases size : tileset.pyramid.levelSize? z with
      | none => simp [Pyramid.flip_eq_none size] at flipped
      | some counts =>
          have inside := (Pyramid.isSome_flip_iff size).mp (by rw [flipped]; rfl)
          rw [Pyramid.flip_eq_some size inside.1 inside.2, Option.some.injEq] at flipped
          subst flipped
          exact ⟨_, _, size, Pyramid.turned_lt _ inside.1, Pyramid.turned_lt _ inside.2⟩

theorem findsFromTop (tileset : Tileset) : tileset.FindsFromTop := by
  intro z x y tile resolved
  have held := holds_of_resolve_fromTop resolved
  exact ⟨held, exists_tileKey held, request_ne_outside held⟩

end Tileset

namespace Pyramid

/-- Counting from the upper left corner does not depend on the origin.  Flipping
permutes the tiles of every level, so that no tileset refuses the tile that it
resolved.  In exact numbers, and where the pyramid is a row of tiles along each
axis, at least one and as many as a word counts, a flipped tile lies at its
column from the west and its row from the north. -/
theorem flip_isOriginIndependent :
    (∀ {α : Type} [Scalar α] (pyramid : Pyramid α), pyramid.FlipsLevels) ∧
      (∀ tileset : Tileset, tileset.FindsFromTop) ∧
      ∀ (pyramid : Pyramid Rat) (z : Nat) (resolution : Rat),
        pyramid.resolution? z = some resolution →
        IsRowOfTiles pyramid.extent.width (pyramid.unitX resolution) →
        IsRowOfTiles pyramid.extent.height (pyramid.unitY resolution) →
        pyramid.CountsFromNorthWest z resolution :=
  ⟨flipsLevels, Tileset.findsFromTop, fun _ _ _ => countsFromNorthWest⟩

/-- Two columns and three rows, counted from the upper right corner. -/
def fittedLevel : Pyramid Rat where
  name := "fitted"
  srs := "EPSG:3857"
  extent := ⟨0, 0, 512, 768⟩
  tileWidth := 256
  tileHeight := 256
  resolutions := [1]
  elevationBlock := standardBlock
  origin := .topRight

theorem flip_isOriginIndependent_fittedLevel :
    fittedLevel.levelSize? 0 = some (2, 3) ∧
      Set.BijOn (fun index => fittedLevel.flip 0 index.1 index.2) (levelTiles 2 3)
        (some '' levelTiles 2 3) ∧
      fittedLevel.flip 0 0 2 = some (1, 2) ∧
      fittedLevel.tileExtent ⟨0, 1, 2⟩ = some ⟨0, 0, 256, 256⟩ ∧
      fittedLevel.CountsFromNorthWest 0 1 := by
  have size : fittedLevel.levelSize? 0 = some (2, 3) := by decide +kernel
  have wide : IsRowOfTiles fittedLevel.extent.width (fittedLevel.unitX 1) :=
    ⟨2, by decide, by decide, by decide +kernel⟩
  have high : IsRowOfTiles fittedLevel.extent.height (fittedLevel.unitY 1) :=
    ⟨3, by decide, by decide, by decide +kernel⟩
  exact ⟨size, (flip_isOriginIndependent.1 fittedLevel).permuted 0 2 3 size, by decide +kernel,
    by decide +kernel, flip_isOriginIndependent.2.2 fittedLevel 0 1 rfl wide high⟩

/-- A row of tiles of one pixel, counted from the lower right corner. -/
def pixelRow (length : Rat) : Pyramid Rat where
  name := "row"
  srs := "EPSG:3857"
  extent := ⟨0, 0, length, 1⟩
  tileWidth := 1
  tileHeight := 1
  resolutions := [1]
  elevationBlock := standardBlock
  origin := .bottomRight

/-- Without bounds on the number of tiles they would lie elsewhere: of `2 ^ 32`
tiles the last one is not counted, and of no tiles one is. -/
theorem not_forall_countsFromNorthWest :
    ¬(∀ (pyramid : Pyramid Rat) (z : Nat) (resolution : Rat),
        pyramid.resolution? z = some resolution →
        (∃ columns : Nat, 0 < columns ∧
          pyramid.extent.width = columns * pyramid.unitX resolution) →
        (∃ rows : Nat, 0 < rows ∧ pyramid.extent.height = rows * pyramid.unitY resolution) →
        pyramid.CountsFromNorthWest z resolution) ∧
      ¬∀ (pyramid : Pyramid Rat) (z : Nat) (resolution : Rat),
        pyramid.resolution? z = some resolution →
        (∃ columns ≤ word32Max, pyramid.extent.width = columns * pyramid.unitX resolution) →
        (∃ rows ≤ word32Max, pyramid.extent.height = rows * pyramid.unitY resolution) →
        pyramid.CountsFromNorthWest z resolution := by
  constructor
  · intro claimed
    obtain ⟨column, row, flipped, located⟩ := claimed (pixelRow (2 ^ 32)) 0 1 rfl
      ⟨2 ^ 32, by decide, by decide +kernel⟩ ⟨1, by decide, by decide +kernel⟩ word32Max 1
      (by decide +kernel) 0 0 (by decide) (by decide)
    have turned : (pixelRow (2 ^ 32)).flip 0 0 0 = some (word32Max - 1, 0) := by decide +kernel
    obtain ⟨rfl, rfl⟩ := Prod.mk.inj (Option.some.inj (turned.symm.trans flipped))
    exact absurd located (by decide +kernel)
  · intro claimed
    obtain ⟨column, row, flipped, located⟩ := claimed (pixelRow 0) 0 1 rfl
      ⟨0, by decide, by decide +kernel⟩ ⟨1, by decide, by decide +kernel⟩ 1 1
      (by decide +kernel) 0 0 (by decide) (by decide)
    have turned : (pixelRow 0).flip 0 0 0 = some (0, 0) := by decide +kernel
    obtain ⟨rfl, rfl⟩ := Prod.mk.inj (Option.some.inj (turned.symm.trans flipped))
    exact absurd located (by decide +kernel)

end Pyramid

end TileAtlas
