import Mathlib.Data.List.ProdSigma
import TileAtlas.Proofs.Mesh.Border

/-!
Contract: the edges between neighbouring positions of a grid.

Owns:
- `block`, the positions of so many columns and rows;
- `gridEdges`: row edges, column edges and a diagonal for each cell, all of them
  different;
- `closedEdges_border`: the walk along the border passes the outer edges;
- `row_perm` and `column_perm`: an edge that is no outer edge lies between two
  cells.

Does not own: triangles and the curtain.
-/

namespace TileAtlas.Mesh

/-! ## Blocks -/

/-- The positions of a block, row by row. -/
def block (columns rows : Nat) : List (Nat × Nat) :=
  (List.range rows).flatMap fun y => (List.range columns).map fun x => (x, y)

theorem mem_block {columns rows : Nat} {place : Nat × Nat} :
    place ∈ block columns rows ↔ place.1 < columns ∧ place.2 < rows := by
  simp only [block, List.mem_flatMap, List.mem_map, List.mem_range]
  constructor
  · rintro ⟨y, inY, x, inX, rfl⟩
    exact ⟨inX, inY⟩
  · rintro ⟨inX, inY⟩
    exact ⟨place.2, inY, place.1, inX, rfl⟩

theorem nodup_block (columns rows : Nat) : (block columns rows).Nodup := by
  have isProduct : block columns rows =
      ((List.range rows).product (List.range columns)).map Prod.swap := by
    rw [block, List.product, List.map_flatMap]
    simp only [List.map_map]
    rfl
  rw [isProduct]
  exact (List.nodup_range.product List.nodup_range).map Prod.swap_injective

/-! ## Edges of the grid -/

/-- The edge to the next column. -/
def across (place : Nat × Nat) : Sym2 (Nat × Nat) := s(place, (place.1 + 1, place.2))

/-- The edge to the next row. -/
def down (place : Nat × Nat) : Sym2 (Nat × Nat) := s(place, (place.1, place.2 + 1))

def slant (place : Nat × Nat) : Sym2 (Nat × Nat) :=
  s((place.1, place.2 + 1), (place.1 + 1, place.2))

theorem across_injective : Function.Injective across := by
  intro place other agree
  simp only [across, Sym2.eq_iff, Prod.ext_iff] at agree ⊢
  omega

theorem down_injective : Function.Injective down := by
  intro place other agree
  simp only [down, Sym2.eq_iff, Prod.ext_iff] at agree ⊢
  omega

theorem slant_injective : Function.Injective slant := by
  intro place other agree
  simp only [slant, Sym2.eq_iff, Prod.ext_iff] at agree ⊢
  omega

theorem across_ne_down (place other : Nat × Nat) : across place ≠ down other := by
  simp only [across, down, ne_eq, Sym2.eq_iff, Prod.ext_iff]
  omega

theorem slant_ne_across (place other : Nat × Nat) : slant place ≠ across other := by
  simp only [across, slant, ne_eq, Sym2.eq_iff, Prod.ext_iff]
  omega

theorem slant_ne_down (place other : Nat × Nat) : slant place ≠ down other := by
  simp only [down, slant, ne_eq, Sym2.eq_iff, Prod.ext_iff]
  omega

/-- Row edges, column edges and diagonals are all different. -/
theorem nodup_edges {cells rows columns : List (Nat × Nat)} (cellsDistinct : cells.Nodup)
    (rowsDistinct : rows.Nodup) (columnsDistinct : columns.Nodup) :
    (cells.map slant ++ (rows.map across ++ columns.map down)).Nodup := by
  refine (cellsDistinct.map slant_injective).append ((rowsDistinct.map across_injective).append
    (columnsDistinct.map down_injective) ?_) ?_
  · intro edge isRow isColumn
    obtain ⟨place, -, rfl⟩ := List.mem_map.mp isRow
    obtain ⟨other, -, agree⟩ := List.mem_map.mp isColumn
    exact across_ne_down place other agree.symm
  · intro edge isCell isOther
    obtain ⟨place, -, rfl⟩ := List.mem_map.mp isCell
    rcases List.mem_append.mp isOther with isRow | isColumn
    · obtain ⟨other, -, agree⟩ := List.mem_map.mp isRow
      exact slant_ne_across place other agree.symm
    · obtain ⟨other, -, agree⟩ := List.mem_map.mp isColumn
      exact slant_ne_down place other agree.symm

def gridEdges (last : Nat) : List (Sym2 (Nat × Nat)) :=
  (block last last).map slant ++
    ((block last (last + 1)).map across ++ (block (last + 1) last).map down)

/-! ## The outer edges -/

/-- Two parts without a common member make up the whole in any order. -/
theorem append_perm {β : Type} {left right whole : List β} (leftDistinct : left.Nodup)
    (rightDistinct : right.Nodup) (wholeDistinct : whole.Nodup)
    (apart : ∀ member ∈ left, member ∉ right)
    (covers : ∀ member, member ∈ left ∨ member ∈ right ↔ member ∈ whole) :
    (left ++ right).Perm whole := by
  have distinct : (left ++ right).Nodup := leftDistinct.append rightDistinct apart
  refine (List.perm_ext_iff_of_nodup distinct wholeDistinct).mpr fun member => ?_
  rw [List.mem_append, covers]

section Border

/-- The positions of row `y` where an edge to the next column begins. -/
def row (last y : Nat) : List (Nat × Nat) := (List.range last).map fun x => (x, y)

def column (last x : Nat) : List (Nat × Nat) := (List.range last).map fun y => (x, y)

/-- A position so many columns and rows further. -/
def moved (columns rows : Nat) (place : Nat × Nat) : Nat × Nat :=
  (place.1 + columns, place.2 + rows)

variable {last x y columns rows : Nat} {place : Nat × Nat}

theorem mem_row : place ∈ row last y ↔ place.1 < last ∧ place.2 = y := by
  simp only [row, List.mem_map, List.mem_range, Prod.ext_iff]
  constructor
  · rintro ⟨x, inside, rfl, rfl⟩
    exact ⟨inside, rfl⟩
  · rintro ⟨inside, rfl⟩
    exact ⟨place.1, inside, rfl, rfl⟩

theorem mem_column : place ∈ column last x ↔ place.1 = x ∧ place.2 < last := by
  simp only [column, List.mem_map, List.mem_range, Prod.ext_iff]
  constructor
  · rintro ⟨y, inside, rfl, rfl⟩
    exact ⟨rfl, inside⟩
  · rintro ⟨rfl, inside⟩
    exact ⟨place.2, inside, rfl, rfl⟩

theorem nodup_row (last y : Nat) : (row last y).Nodup :=
  List.nodup_range.map fun _ _ agree => (Prod.ext_iff.mp agree).1

theorem nodup_column (last x : Nat) : (column last x).Nodup :=
  List.nodup_range.map fun _ _ agree => (Prod.ext_iff.mp agree).2

theorem moved_injective (columns rows : Nat) : Function.Injective (moved columns rows) := by
  intro place other agree
  simp only [moved, Prod.ext_iff] at agree ⊢
  omega

theorem mem_map_moved : place ∈ (block last last).map (moved columns rows) ↔
    (columns ≤ place.1 ∧ place.1 < last + columns) ∧ rows ≤ place.2 ∧ place.2 < last + rows := by
  simp only [List.mem_map, mem_block, moved, Prod.ext_iff]
  constructor
  · rintro ⟨other, inside, atColumn, atRow⟩
    omega
  · rintro ⟨inX, inY⟩
    exact ⟨(place.1 - columns, place.2 - rows), ⟨by omega, by omega⟩, by omega, by omega⟩

/-- An outer row and, for each cell, the edge on its other side are all row
edges. -/
theorem row_perm (isOuter : y = 0 ∧ rows = 1 ∨ y = last ∧ rows = 0) :
    (row last y ++ (block last last).map (moved 0 rows)).Perm (block last (last + 1)) := by
  refine append_perm (nodup_row _ _) ((nodup_block _ _).map (moved_injective _ _))
    (nodup_block _ _) ?_ ?_
  · intro place
    rw [mem_row, mem_map_moved]
    omega
  · intro place
    rw [mem_row, mem_map_moved, mem_block]
    omega

theorem column_perm (isOuter : x = 0 ∧ columns = 1 ∨ x = last ∧ columns = 0) :
    (column last x ++ (block last last).map (moved columns 0)).Perm (block (last + 1) last) := by
  refine append_perm (nodup_column _ _) ((nodup_block _ _).map (moved_injective _ _))
    (nodup_block _ _) ?_ ?_
  · intro place
    rw [mem_column, mem_map_moved]
    omega
  · intro place
    rw [mem_column, mem_map_moved, mem_block]
    omega

/-- A list that counts down has the members of one that counts up. -/
theorem perm_of_countDown {β : Type} {downward upward : Nat → β}
    (agree : ∀ index < last, downward index = upward (last - (index + 1))) :
    ((List.range last).map downward).Perm ((List.range last).map upward) := by
  have isReverse : (List.range last).map downward = ((List.range last).map upward).reverse := by
    apply List.ext_getElem
    · simp
    · intro index isLeft isRight
      have inside : index < last := by simpa using isLeft
      have opposite : last - 1 - index = last - (index + 1) := by omega
      simp [agree index inside, opposite]
  rw [isReverse]
  exact List.reverse_perm _

/-- The edges of the walk are the outer edges of the grid. -/
theorem closedEdges_border (positive : 0 < last) :
    (closedEdges (border last)).Perm
      ((row last 0).map across ++ ((column last last).map down ++
        ((row last last).map across ++ (column last 0).map down))) := by
  rw [closedEdges, ← borderSteps_eq_zip positive, borderSteps, steps_borderLoop positive]
  simp only [List.map_append, List.map_map, row, column]
  refine List.Perm.append_left _ (List.Perm.append_left _ (List.Perm.append ?_ ?_))
  · refine perm_of_countDown fun index inside => ?_
    have start : last - index = last - (index + 1) + 1 := by omega
    simp only [Function.comp_apply, south, across]
    rw [start, Sym2.eq_swap]
  · refine perm_of_countDown fun index inside => ?_
    have start : last - index = last - (index + 1) + 1 := by omega
    simp only [Function.comp_apply, west, down]
    rw [start, Sym2.eq_swap]

theorem nodup_closedEdges_border (positive : 0 < last) : (closedEdges (border last)).Nodup := by
  have rowsDistinct : (row last 0 ++ row last last).Nodup := by
    refine (nodup_row _ _).append (nodup_row _ _) fun place isNorth isSouth => ?_
    exact positive.ne ((mem_row.mp isNorth).2.symm.trans (mem_row.mp isSouth).2)
  have columnsDistinct : (column last last ++ column last 0).Nodup := by
    refine (nodup_column _ _).append (nodup_column _ _) fun place isEast isWest => ?_
    exact positive.ne ((mem_column.mp isWest).1.symm.trans (mem_column.mp isEast).1)
  refine (List.Perm.nodup_iff ?_).mpr (nodup_edges List.nodup_nil rowsDistinct columnsDistinct)
  refine (closedEdges_border positive).trans (List.perm_iff_count.mpr fun edge => ?_)
  simp only [List.map_nil, List.nil_append, List.map_append, List.count_append]
  omega

end Border

end TileAtlas.Mesh
