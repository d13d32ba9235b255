import TileAtlas.Proofs.Mesh.Watertight

/-!
Contract: which side the triangles of a surface and of its curtain show.

Owns:
- `Triangle.directedSides`, the sides as the corners follow each other, and
  `IsWound`: no two triangles pass a side in one direction;
- `nodup_gridSides` and `nodup_wallSides`: the surface and the curtain are wound,
  each for itself;
- `mem_seamSides_iff`: what both pass are the steps of the border, backwards;
- `nodup_turnedSides`: with the curtain turned over nothing is passed twice;
- `hasTurnedCurtain`, for triangles that name vertices by 32-bit words.

## Why the curtain shows its other side

Cells and walls are cut in one pattern, which passes the upper edge of a panel
from its finish to its start.  A border edge is the upper edge of its wall, so
the wall passes it against the walk.  The walk goes clockwise and the cells are
wound counter-clockwise: the cell inside passes the edge against the walk, too.
-/

namespace TileAtlas.Mesh

/-! ## Directed sides -/

namespace Triangle

variable {β γ : Type}

/-- The sides, from each corner to the next. -/
def directedSides (triangle : Triangle β) : List (β × β) :=
  [(triangle.first, triangle.second), (triangle.second, triangle.third),
    (triangle.third, triangle.first)]

/-- The triangle as it is seen from behind. -/
def turned (triangle : Triangle β) : Triangle β :=
  ⟨triangle.first, triangle.third, triangle.second⟩

theorem directedSides_map (rename : β → γ) (triangle : Triangle β) :
    (triangle.map rename).directedSides =
      triangle.directedSides.map (Prod.map rename rename) := rfl

theorem directedSides_turned (triangle : Triangle β) :
    triangle.turned.directedSides.Perm (triangle.directedSides.map Prod.swap) :=
  (List.reverse_perm (triangle.directedSides.map Prod.swap))

theorem nodup_corners_turned {triangle : Triangle β} (isProper : triangle.corners.Nodup) :
    triangle.turned.corners.Nodup :=
  ((List.Perm.swap triangle.second triangle.third []).cons triangle.first).nodup_iff.mpr isProper

theorem nodup_directedSides {triangle : Triangle β} (isProper : triangle.corners.Nodup) :
    triangle.directedSides.Nodup := by
  simp only [corners, List.nodup_cons, List.mem_cons, List.not_mem_nil, or_false,
    not_or] at isProper
  simp only [directedSides, List.nodup_cons, List.mem_cons, List.not_mem_nil, or_false, not_or,
    Prod.mk.injEq]
  grind

end Triangle

/-- The number of triangles that pass from one vertex to another. -/
def traversals {β : Type} [DecidableEq β] (triangles : List (Triangle β)) (step : β × β) : Nat :=
  triangles.countP fun triangle => step ∈ triangle.directedSides

/-- No two triangles pass a side in one direction, so that all show the same
side. -/
def IsWound {β : Type} [DecidableEq β] (triangles : List (Triangle β)) : Prop :=
  ∀ step, traversals triangles step ≤ 1

section Sides

variable {β γ : Type}

def directedSides (triangles : List (Triangle β)) : List (β × β) :=
  triangles.flatMap Triangle.directedSides

theorem directedSides_map (rename : β → γ) (triangles : List (Triangle β)) :
    directedSides (triangles.map (Triangle.map rename)) =
      (directedSides triangles).map (Prod.map rename rename) := by
  unfold directedSides
  rw [List.flatMap_map, List.map_flatMap]
  rfl

theorem directedSides_append (first second : List (Triangle β)) :
    directedSides (first ++ second) = directedSides first ++ directedSides second :=
  List.flatMap_append

theorem directedSides_turned (triangles : List (Triangle β)) :
    (directedSides (triangles.map Triangle.turned)).Perm
      ((directedSides triangles).map Prod.swap) := by
  unfold directedSides
  rw [List.flatMap_map, List.map_flatMap]
  exact List.Perm.flatMap_left triangles fun triangle _ => triangle.directedSides_turned

variable [DecidableEq β]

theorem traversals_eq_count {triangles : List (Triangle β)}
    (isProper : ∀ triangle ∈ triangles, triangle.corners.Nodup) (step : β × β) :
    traversals triangles step = (directedSides triangles).count step :=
  countP_mem_eq_count
    (fun triangle isIn => Triangle.nodup_directedSides (isProper triangle isIn)) step

/-- Where no side is passed twice, each is passed by one triangle or none. -/
theorem traversals_of_nodup {triangles : List (Triangle β)}
    (isProper : ∀ triangle ∈ triangles, triangle.corners.Nodup)
    (distinct : (directedSides triangles).Nodup) (step : β × β) :
    traversals triangles step = if step ∈ directedSides triangles then 1 else 0 := by
  rw [traversals_eq_count isProper, distinct.count]

theorem isWound_of_nodup {triangles : List (Triangle β)}
    (isProper : ∀ triangle ∈ triangles, triangle.corners.Nodup)
    (distinct : (directedSides triangles).Nodup) : IsWound triangles := by
  intro step
  rw [traversals_of_nodup isProper distinct]
  split <;> omega

theorem traversals_append (first second : List (Triangle β)) (step : β × β) :
    traversals (first ++ second) step = traversals first step + traversals second step :=
  List.countP_append

end Sides

/-! ## Sides of panels -/

/-- Pieces without repetition, no two of which have a member in common. -/
theorem nodup_flatMap_of_apart {β γ : Type} {items : List β} {piece : β → List γ}
    (distinct : items.Nodup) (pieces : ∀ item ∈ items, (piece item).Nodup)
    (apart : ∀ item ∈ items, ∀ other ∈ items, ∀ member ∈ piece item, member ∈ piece other →
      item = other) : (items.flatMap piece).Nodup := by
  rw [List.nodup_flatMap]
  refine ⟨pieces, distinct.imp_of_mem fun isIn isOther differ member isMember isAlso => ?_⟩
  exact differ (apart _ isIn _ isOther member isMember isAlso)

namespace Panel

variable {β : Type}

def directedSides (panel : Panel β) : List (β × β) :=
  [(panel.upperStart, panel.lowerStart), (panel.lowerStart, panel.upperFinish),
    (panel.upperFinish, panel.upperStart), (panel.upperFinish, panel.lowerStart),
    (panel.lowerStart, panel.lowerFinish), (panel.lowerFinish, panel.upperFinish)]

theorem directedSides_triangles (panels : List (Panel β)) :
    Mesh.directedSides (panels.flatMap triangles) = panels.flatMap directedSides :=
  List.flatMap_assoc

theorem nodup_directedSides {panel : Panel β} (isProper : panel.corners.Nodup) :
    panel.directedSides.Nodup := by
  simp only [corners, List.nodup_cons, List.mem_cons, List.not_mem_nil, or_false,
    not_or] at isProper
  simp only [directedSides, List.nodup_cons, List.mem_cons, List.not_mem_nil, or_false, not_or,
    Prod.mk.injEq]
  grind

theorem mem_corners_of_mem_directedSides {panel : Panel β} {side : β × β}
    (isSide : side ∈ panel.directedSides) : side.1 ∈ panel.corners ∧ side.2 ∈ panel.corners := by
  simp only [directedSides, List.mem_cons, List.not_mem_nil, or_false] at isSide
  rcases isSide with rfl | rfl | rfl | rfl | rfl | rfl
  all_goals simp [corners]

end Panel

/-! ## The surface and the curtain -/

def gridSides (last : Nat) : List (Spot × Spot) :=
  ((block last last).map cell).flatMap Panel.directedSides

def wallSides (last : Nat) : List (Spot × Spot) :=
  ((borderSteps last).map wall).flatMap Panel.directedSides

/-- The steps of the border, backwards. -/
def seamSides (last : Nat) : List (Spot × Spot) :=
  (borderSteps last).map fun step => (.surface step.2, .surface step.1)

/-- The six ways in which a cell passes from one position to another. -/
theorem mem_cell_iff {place first second : Nat × Nat} :
    (Spot.surface first, Spot.surface second) ∈ (cell place).directedSides ↔
      (first = place ∧ second = (place.1, place.2 + 1)) ∨
      (first = (place.1, place.2 + 1) ∧ second = (place.1 + 1, place.2)) ∨
      (first = (place.1 + 1, place.2) ∧ second = place) ∨
      (first = (place.1 + 1, place.2) ∧ second = (place.1, place.2 + 1)) ∨
      (first = (place.1, place.2 + 1) ∧ second = (place.1 + 1, place.2 + 1)) ∨
      (first = (place.1 + 1, place.2 + 1) ∧ second = (place.1 + 1, place.2)) := by
  simp only [cell, Panel.directedSides, List.mem_cons, List.not_mem_nil, or_false, Prod.mk.injEq,
    Spot.surface.injEq]

theorem exists_surface_of_mem_cell {place : Nat × Nat} {side : Spot × Spot}
    (isSide : side ∈ (cell place).directedSides) :
    ∃ first second, side = (.surface first, .surface second) := by
  simp only [cell, Panel.directedSides, List.mem_cons, List.not_mem_nil, or_false] at isSide
  rcases isSide with rfl | rfl | rfl | rfl | rfl | rfl
  all_goals exact ⟨_, _, rfl⟩

/-- What a cell passes tells the cell: the six ways differ in where they lead,
and each begins at a corner of its own. -/
theorem cell_eq_of_mem {place other : Nat × Nat} {side : Spot × Spot}
    (isSide : side ∈ (cell place).directedSides) (isOther : side ∈ (cell other).directedSides) :
    place = other := by
  obtain ⟨first, second, rfl⟩ := exists_surface_of_mem_cell isSide
  rw [mem_cell_iff] at isSide isOther
  simp only [Prod.ext_iff] at isSide isOther ⊢
  omega

/-- The six ways in which a wall passes from one spot to another. -/
theorem mem_wall_iff {step : (Nat × Nat) × (Nat × Nat)} {side : Spot × Spot} :
    side ∈ (wall step).directedSides ↔
      side = (.surface step.1, .curtain step.1) ∨ side = (.curtain step.1, .surface step.2) ∨
      side = (.surface step.2, .surface step.1) ∨ side = (.surface step.2, .curtain step.1) ∨
      side = (.curtain step.1, .curtain step.2) ∨ side = (.curtain step.2, .surface step.2) := by
  simp only [wall, Panel.directedSides, List.mem_cons, List.not_mem_nil, or_false]

section Border

variable {last : Nat}

theorem mem_gridSides {side : Spot × Spot} : side ∈ gridSides last ↔
    ∃ place, (place.1 < last ∧ place.2 < last) ∧ side ∈ (cell place).directedSides := by
  simp only [gridSides, List.flatMap_map, List.mem_flatMap, mem_block]

theorem mem_wallSides {side : Spot × Spot} : side ∈ wallSides last ↔
    ∃ step ∈ borderSteps last, side ∈ (wall step).directedSides := by
  simp only [wallSides, List.flatMap_map, List.mem_flatMap]

/-- A step is told by its start, and by its finish. -/
theorem borderSteps_determined (positive : 0 < last)
    {step other : (Nat × Nat) × (Nat × Nat)} (isStep : step ∈ borderSteps last)
    (isOther : other ∈ borderSteps last) (agree : step.1 = other.1 ∨ step.2 = other.2) :
    step = other := by
  have starts : ((borderSteps last).map Prod.fst).Nodup :=
    (map_fst_borderSteps positive).symm ▸ nodup_border positive
  have finishes : ((borderSteps last).map Prod.snd).Nodup :=
    (map_snd_borderSteps positive).nodup_iff.mpr (nodup_border positive)
  rcases agree with agree | agree
  · exact List.inj_on_of_nodup_map starts isStep isOther agree
  · exact List.inj_on_of_nodup_map finishes isStep isOther agree

theorem wall_eq_of_mem (positive : 0 < last) {step other : (Nat × Nat) × (Nat × Nat)}
    (isStep : step ∈ borderSteps last) (isOtherStep : other ∈ borderSteps last)
    {side : Spot × Spot} (isSide : side ∈ (wall step).directedSides)
    (isOther : side ∈ (wall other).directedSides) : step = other := by
  have moves := step_ne positive isStep
  have otherMoves := step_ne positive isOtherStep
  apply borderSteps_determined positive isStep isOtherStep
  rw [mem_wall_iff] at isSide isOther
  rcases isSide with rfl | rfl | rfl | rfl | rfl | rfl
  all_goals
    simp only [Prod.mk.injEq, Spot.surface.injEq, Spot.curtain.injEq, reduceCtorEq, false_and,
      and_false, or_false, false_or] at isOther
    grind

theorem nodup_gridSides (last : Nat) : (gridSides last).Nodup := by
  rw [gridSides, List.flatMap_map]
  apply nodup_flatMap_of_apart (nodup_block last last)
  · intro place isIn
    apply Panel.nodup_directedSides
    simp [cell, Panel.corners, Prod.ext_iff]
  · intro place isIn other isOther side isSide isAlso
    exact cell_eq_of_mem isSide isAlso

theorem nodup_wallSides (positive : 0 < last) : (wallSides last).Nodup := by
  rw [wallSides, List.flatMap_map]
  apply nodup_flatMap_of_apart (nodup_borderSteps positive)
  · intro step isStep
    apply Panel.nodup_directedSides
    simp [wall, Panel.corners, step_ne positive isStep]
  · intro step isStep other isOther side isSide isAlso
    exact wall_eq_of_mem positive isStep isOther isSide isAlso

/-! ### Where both pass -/

/-- Each step of the border is passed backwards by the cell inside. -/
theorem backward_mem_gridSides (positive : 0 < last) {step : (Nat × Nat) × (Nat × Nat)}
    (isStep : step ∈ borderSteps last) :
    (Spot.surface step.2, Spot.surface step.1) ∈ gridSides last := by
  rw [mem_gridSides]
  simp only [mem_cell_iff, Prod.ext_iff]
  obtain ⟨index, inside, rfl | rfl | rfl | rfl⟩ := exists_index_of_mem_steps positive isStep
  · refine ⟨(index, 0), ?_⟩
    simp only [north, true_and, and_true, or_true, true_or]
    omega
  · refine ⟨(last - 1, index), ?_⟩
    simp only [east, and_true]
    omega
  · refine ⟨(last - (index + 1), last - 1), ?_⟩
    simp only [south, true_and]
    omega
  · refine ⟨(0, last - (index + 1)), ?_⟩
    simp only [west, true_and, and_true]
    omega

/-- No cell passes a step of the border forwards. -/
theorem forward_not_mem_gridSides (positive : 0 < last) {step : (Nat × Nat) × (Nat × Nat)}
    (isStep : step ∈ borderSteps last) :
    (Spot.surface step.1, Spot.surface step.2) ∉ gridSides last := by
  rw [mem_gridSides]
  simp only [mem_cell_iff, Prod.ext_iff]
  rintro ⟨place, isInside, isSide⟩
  obtain ⟨index, inside, rfl | rfl | rfl | rfl⟩ := exists_index_of_mem_steps positive isStep
  all_goals
    simp only [north, east, south, west] at isSide
    omega

/-- Of what a wall passes, only its upper edge lies on the surface. -/
theorem mem_seamSides_of_mem_wallSides {first second : Nat × Nat}
    (isSide : (Spot.surface first, Spot.surface second) ∈ wallSides last) :
    ∃ step ∈ borderSteps last, first = step.2 ∧ second = step.1 := by
  obtain ⟨step, isStep, isSide⟩ := mem_wallSides.mp isSide
  refine ⟨step, isStep, ?_⟩
  simpa [mem_wall_iff] using isSide

theorem exists_surface_of_mem_gridSides {side : Spot × Spot} (isSide : side ∈ gridSides last) :
    ∃ first second, side = (.surface first, .surface second) := by
  obtain ⟨place, -, isSide⟩ := mem_gridSides.mp isSide
  exact exists_surface_of_mem_cell isSide

theorem mem_seamSides_iff (positive : 0 < last) {side : Spot × Spot} :
    side ∈ gridSides last ∧ side ∈ wallSides last ↔ side ∈ seamSides last := by
  constructor
  · rintro ⟨isGrid, isWall⟩
    obtain ⟨first, second, rfl⟩ := exists_surface_of_mem_gridSides isGrid
    obtain ⟨step, isStep, rfl, rfl⟩ := mem_seamSides_of_mem_wallSides isWall
    exact List.mem_map_of_mem isStep
  · intro isSeam
    obtain ⟨step, isStep, rfl⟩ := List.mem_map.mp isSeam
    refine ⟨backward_mem_gridSides positive isStep, mem_wallSides.mpr ⟨step, isStep, ?_⟩⟩
    exact mem_wall_iff.mpr (.inr (.inr (.inl rfl)))

/-- With the curtain turned over no side is passed twice. -/
theorem nodup_turnedSides (positive : 0 < last) :
    (gridSides last ++ (wallSides last).map Prod.swap).Nodup := by
  refine (nodup_gridSides last).append ((nodup_wallSides positive).map Prod.swap_injective) ?_
  intro side isGrid isTurned
  obtain ⟨first, second, rfl⟩ := exists_surface_of_mem_gridSides isGrid
  obtain ⟨⟨other, another⟩, isWall, agree⟩ := List.mem_map.mp isTurned
  obtain ⟨rfl, rfl⟩ := Prod.mk.inj agree
  obtain ⟨step, isStep, rfl, rfl⟩ := mem_seamSides_of_mem_wallSides isWall
  exact forward_not_mem_gridSides positive isStep isGrid

end Border

/-! ## Triangles by the numbers of their vertices -/

/-- The triangles of the surface, as its words name them. -/
def surfaceTriangles (size : Nat) : List (Triangle Nat) :=
  Triangle.listOf ((gridTriangles size).map vertexWord)

def hangingTriangles (size : Nat) : List (Triangle Nat) :=
  Triangle.listOf ((curtainTriangles size).map vertexWord)

/-- The edges along the border, against the walk. -/
def seamSteps (size : Nat) : List (Nat × Nat) :=
  (steps (borderLoop size)).map fun step =>
    (gridVertex size step.2.1 step.2.2, gridVertex size step.1.1 step.1.2)

section Numbers

variable {last : Nat}

/-- The pairs of spots of the grid. -/
def spotPairs (last : Nat) : Set (Spot × Spot) :=
  {spot | Spot.IsOn last spot} ×ˢ {spot | Spot.IsOn last spot}

/-- The numbers of two spots. -/
def numbers (size : Nat) : Spot × Spot → Nat × Nat := Prod.map (vertexOf size) (vertexOf size)

theorem numbers_injOn (positive : 0 < last) : (spotPairs last).InjOn (numbers (last + 1)) :=
  (vertexOf_injOn positive).prodMap (vertexOf_injOn positive)

theorem nodup_map_numbers (positive : 0 < last) {sides : List (Spot × Spot)}
    (isOn : ∀ side ∈ sides, side ∈ spotPairs last) (distinct : sides.Nodup) :
    (sides.map (numbers (last + 1))).Nodup :=
  distinct.map_on fun side isSide other isOther agree =>
    numbers_injOn positive (isOn side isSide) (isOn other isOther) agree

/-! ### Some of the panels -/

def numberedTriangles (size : Nat) (part : List (Panel Spot)) : List (Triangle Nat) :=
  (part.flatMap Panel.triangles).map (Triangle.map (vertexOf size))

theorem directedSides_numberedTriangles (size : Nat) (part : List (Panel Spot)) :
    directedSides (numberedTriangles size part) =
      (part.flatMap Panel.directedSides).map (numbers size) := by
  rw [numberedTriangles, directedSides_map, Panel.directedSides_triangles]
  rfl

section Part

variable {part : List (Panel Spot)} (isPart : ∀ panel ∈ part, panel ∈ panels last)
include isPart

theorem listOf_numbered (positive : 0 < last) (fits : vertexCount (last + 1) ≤ 2 ^ 32) :
    Triangle.listOf ((numbered (last + 1) part).map vertexWord) =
      numberedTriangles (last + 1) part := by
  rw [words_numbered positive fits isPart]
  exact Triangle.listOf_corners _

theorem mem_spotPairs (positive : 0 < last) :
    ∀ side ∈ part.flatMap Panel.directedSides, side ∈ spotPairs last := by
  intro side isSide
  obtain ⟨panel, isIn, isSide⟩ := List.mem_flatMap.mp isSide
  have isOn := (corners_of_mem_panels positive (isPart panel isIn)).2
  obtain ⟨isStart, isFinish⟩ := Panel.mem_corners_of_mem_directedSides isSide
  exact ⟨isOn _ isStart, isOn _ isFinish⟩

end Part

/-! ### Both parts -/

theorem cells_subset (last : Nat) : ∀ panel ∈ (block last last).map cell, panel ∈ panels last :=
  fun _ isIn => List.mem_append_left _ isIn

theorem walls_subset (last : Nat) : ∀ panel ∈ (borderSteps last).map wall, panel ∈ panels last :=
  fun _ isIn => List.mem_append_right _ isIn

theorem surfaceTriangles_eq (positive : 0 < last) (fits : vertexCount (last + 1) ≤ 2 ^ 32) :
    surfaceTriangles (last + 1) = numberedTriangles (last + 1) ((block last last).map cell) := by
  rw [surfaceTriangles, gridTriangles_eq]
  exact listOf_numbered (cells_subset last) positive fits

theorem hangingTriangles_eq (positive : 0 < last) (fits : vertexCount (last + 1) ≤ 2 ^ 32) :
    hangingTriangles (last + 1) = numberedTriangles (last + 1) ((borderSteps last).map wall) := by
  rw [hangingTriangles, curtainTriangles_eq]
  exact listOf_numbered (walls_subset last) positive fits

theorem listOf_indices (positive : 0 < last) (fits : vertexCount (last + 1) ≤ 2 ^ 32) :
    Triangle.listOf (indices (last + 1)) =
      surfaceTriangles (last + 1) ++ hangingTriangles (last + 1) := by
  rw [indices_eq positive fits, Triangle.listOf_corners, surfaceTriangles_eq positive fits,
    hangingTriangles_eq positive fits, numberedTriangles, numberedTriangles, ← List.map_append,
    ← List.flatMap_append]
  rfl

theorem isProper_of_mem (positive : 0 < last) (fits : vertexCount (last + 1) ≤ 2 ^ 32) :
    ∀ triangle ∈ surfaceTriangles (last + 1) ++ hangingTriangles (last + 1),
      triangle.corners.Nodup := by
  rw [← listOf_indices positive fits, indices_eq positive fits, Triangle.listOf_corners]
  exact (isWatertight_numbered positive).isProper

theorem directedSides_surfaceTriangles (positive : 0 < last)
    (fits : vertexCount (last + 1) ≤ 2 ^ 32) :
    directedSides (surfaceTriangles (last + 1)) = (gridSides last).map (numbers (last + 1)) := by
  rw [surfaceTriangles_eq positive fits, directedSides_numberedTriangles]
  rfl

theorem directedSides_hangingTriangles (positive : 0 < last)
    (fits : vertexCount (last + 1) ≤ 2 ^ 32) :
    directedSides (hangingTriangles (last + 1)) = (wallSides last).map (numbers (last + 1)) := by
  rw [hangingTriangles_eq positive fits, directedSides_numberedTriangles]
  rfl

theorem seamSteps_eq (last : Nat) :
    seamSteps (last + 1) = (seamSides last).map (numbers (last + 1)) := by
  unfold seamSteps seamSides
  rw [borderLoop_eq, List.map_map]
  rfl

/-- Numbers tell spots apart, so both parts still share the seam alone. -/
theorem mem_seamSteps_iff (positive : 0 < last) {step : Nat × Nat} :
    step ∈ (gridSides last).map (numbers (last + 1)) ∧
        step ∈ (wallSides last).map (numbers (last + 1)) ↔ step ∈ seamSteps (last + 1) := by
  rw [seamSteps_eq]
  constructor
  · rintro ⟨inGrid, inWalls⟩
    obtain ⟨side, isGrid, rfl⟩ := List.mem_map.mp inGrid
    obtain ⟨other, isWall, agree⟩ := List.mem_map.mp inWalls
    have same : other = side := numbers_injOn positive
      (mem_spotPairs (walls_subset last) positive other isWall)
      (mem_spotPairs (cells_subset last) positive side isGrid) agree
    exact List.mem_map_of_mem ((mem_seamSides_iff positive).mp ⟨isGrid, same ▸ isWall⟩)
  · intro inSeam
    obtain ⟨side, isSeam, rfl⟩ := List.mem_map.mp inSeam
    obtain ⟨isGrid, isWall⟩ := (mem_seamSides_iff positive).mpr isSeam
    exact ⟨List.mem_map_of_mem isGrid, List.mem_map_of_mem isWall⟩

theorem length_seamSteps (positive : 0 < last) : (seamSteps (last + 1)).length = 4 * last := by
  have steps := congrArg List.length (map_fst_borderSteps positive)
  rw [List.length_map, length_border] at steps
  rw [seamSteps_eq, List.length_map, seamSides, List.length_map, steps]

theorem nodup_seamSteps (positive : 0 < last) : (seamSteps (last + 1)).Nodup := by
  have sides : (seamSides last).Nodup := by
    refine (nodup_borderSteps positive).map fun step other agree => ?_
    simp only [Prod.mk.injEq, Spot.surface.injEq] at agree
    exact Prod.ext agree.2 agree.1
  rw [seamSteps_eq]
  apply nodup_map_numbers positive _ sides
  intro side isSide
  exact mem_spotPairs (cells_subset last) positive side ((mem_seamSides_iff positive).mpr isSide).1

end Numbers

/-! ## The whole mesh -/

/-- How a mesh with a curtain is wound: the surface and the curtain each for
itself, but the curtain shows the other side.  A border edge is passed twice in
one direction, once by the surface and once by the curtain; no other edge is,
and with the curtain turned over none is at all. -/
structure HasTurnedCurtain (size : Nat) : Prop where
  words : (Triangle.listOf (indices size)).flatMap Triangle.corners = indices size
  parts : Triangle.listOf (indices size) = surfaceTriangles size ++ hangingTriangles size
  surface : IsWound (surfaceTriangles size)
  curtain : IsWound (hangingTriangles size)
  seam : (seamSteps size).Nodup ∧ (seamSteps size).length = 4 * (size - 1)
  twice : ∀ step ∈ seamSteps size,
    traversals (surfaceTriangles size) step = 1 ∧ traversals (hangingTriangles size) step = 1
  once : ∀ step, step ∉ seamSteps size → traversals (Triangle.listOf (indices size)) step ≤ 1
  turned : IsWound (surfaceTriangles size ++ (hangingTriangles size).map Triangle.turned)

section Whole

variable {last : Nat}

theorem nodup_directedSides_surface (positive : 0 < last) (fits : vertexCount (last + 1) ≤ 2 ^ 32) :
    (directedSides (surfaceTriangles (last + 1))).Nodup := by
  rw [directedSides_surfaceTriangles positive fits]
  exact nodup_map_numbers positive (mem_spotPairs (cells_subset last) positive)
    (nodup_gridSides last)

theorem nodup_directedSides_curtain (positive : 0 < last) (fits : vertexCount (last + 1) ≤ 2 ^ 32) :
    (directedSides (hangingTriangles (last + 1))).Nodup := by
  rw [directedSides_hangingTriangles positive fits]
  exact nodup_map_numbers positive (mem_spotPairs (walls_subset last) positive)
    (nodup_wallSides positive)

theorem nodup_directedSides_turned (positive : 0 < last) (fits : vertexCount (last + 1) ≤ 2 ^ 32) :
    (directedSides (surfaceTriangles (last + 1) ++
      (hangingTriangles (last + 1)).map Triangle.turned)).Nodup := by
  have sides : (directedSides (surfaceTriangles (last + 1) ++
      (hangingTriangles (last + 1)).map Triangle.turned)).Perm
        ((gridSides last ++ (wallSides last).map Prod.swap).map (numbers (last + 1))) := by
    rw [directedSides_append, directedSides_surfaceTriangles positive fits, List.map_append]
    refine List.Perm.append_left _ ((directedSides_turned _).trans ?_)
    rw [directedSides_hangingTriangles positive fits, List.map_map, List.map_map]
    rfl
  apply sides.nodup_iff.mpr
  apply nodup_map_numbers positive _ (nodup_turnedSides positive)
  intro side isIn
  rcases List.mem_append.mp isIn with isSide | isTurned
  · exact mem_spotPairs (cells_subset last) positive side isSide
  · obtain ⟨other, isSide, rfl⟩ := List.mem_map.mp isTurned
    exact (mem_spotPairs (walls_subset last) positive other isSide).symm

end Whole

theorem hasTurnedCurtain (size : Nat) (large : 2 ≤ size) (fits : vertexCount size ≤ 2 ^ 32) :
    HasTurnedCurtain size := by
  obtain ⟨last, positive, rfl⟩ := exists_last large
  have isProper := isProper_of_mem positive fits
  rw [List.forall_mem_append] at isProper
  obtain ⟨properSurface, properCurtain⟩ := isProper
  have surfaceSides := nodup_directedSides_surface positive fits
  have curtainSides := nodup_directedSides_curtain positive fits
  have onSurface := traversals_of_nodup properSurface surfaceSides
  have onCurtain := traversals_of_nodup properCurtain curtainSides
  have onSeam (step : Nat × Nat) : step ∈ directedSides (surfaceTriangles (last + 1)) ∧
      step ∈ directedSides (hangingTriangles (last + 1)) ↔ step ∈ seamSteps (last + 1) := by
    rw [directedSides_surfaceTriangles positive fits, directedSides_hangingTriangles positive fits]
    exact mem_seamSteps_iff positive
  constructor
  · rw [indices_eq positive fits, Triangle.listOf_corners]
  · exact listOf_indices positive fits
  · exact isWound_of_nodup properSurface surfaceSides
  · exact isWound_of_nodup properCurtain curtainSides
  · exact ⟨nodup_seamSteps positive, length_seamSteps positive⟩
  · intro step isSeam
    obtain ⟨isGrid, isWall⟩ := (onSeam step).mpr isSeam
    exact ⟨(onSurface step).trans (if_pos isGrid), (onCurtain step).trans (if_pos isWall)⟩
  · intro step notSeam
    rw [← onSeam step, not_and] at notSeam
    rw [listOf_indices positive fits, traversals_append, onSurface step, onCurtain step]
    by_cases isGrid : step ∈ directedSides (surfaceTriangles (last + 1))
    · rw [if_pos isGrid, if_neg (notSeam isGrid)]
    · rw [if_neg isGrid]
      split <;> omega
  · refine isWound_of_nodup ?_ (nodup_directedSides_turned positive fits)
    intro triangle isIn
    rcases List.mem_append.mp isIn with isSurface | isTurned
    · exact properSurface triangle isSurface
    · obtain ⟨other, isCurtain, rfl⟩ := List.mem_map.mp isTurned
      exact Triangle.nodup_corners_turned (properCurtain other isCurtain)

/-- Nine vertices with eight below their border. -/
theorem hasTurnedCurtain_three : 2 ≤ 3 ∧ vertexCount 3 ≤ 2 ^ 32 ∧ HasTurnedCurtain 3 := by
  have fits : vertexCount 3 ≤ 2 ^ 32 := by decide
  exact ⟨by decide, fits, hasTurnedCurtain 3 (by decide) fits⟩

/-- A single cell: its first triangle and the first of the curtain both pass from
the second vertex to the first. -/
theorem not_forall_isWound_indices :
    ¬∀ size, 2 ≤ size → vertexCount size ≤ 2 ^ 32 →
      IsWound (Triangle.listOf (indices size)) := by
  intro always
  have once := always 2 (by decide) (by decide) (1, 0)
  have twice : traversals (Triangle.listOf (indices 2)) (1, 0) = 2 := by decide
  omega

end TileAtlas.Mesh
