import TileAtlas.Mesh.Topology
import TileAtlas.Proofs.Mesh.Complex

/-!
Contract: the border of a square grid, walked step by step.

Owns:
- `steps`, a walk by its steps, and `steps_borderLoop`: along each side by one
  position, and from each side into the next;
- `border`, the positions of the walk, each of them once;
- `map_curtainNumber`: curtain vertices are numbered in the order of
  `curtainSources`;
- `border_perm`: the walk passes the same positions.

Does not own: the triangles along the walk.

All of it is in terms of `last`, the greatest column and row.
-/

namespace TileAtlas.Mesh

/-! ## Walks -/

section Walks

variable {β : Type}

def steps : List β → List (β × β)
  | [] => []
  | [_] => []
  | start :: finish :: rest => (start, finish) :: steps (finish :: rest)

theorem walkTriangles_eq (size : Nat) (walk : List (Nat × Nat)) :
    walkTriangles size walk =
      (steps walk).flatMap fun step => stepTriangles size step.1 step.2 := by
  fun_induction steps walk with
  | case1 => rfl
  | case2 => rfl
  | case3 start finish rest inductionHypothesis =>
      rw [walkTriangles, List.flatMap_cons, inductionHypothesis]

/-- A walk along numbered places that goes on where the numbers end. -/
theorem steps_run (place : Nat → β) (count : Nat) {rest : List β}
    (meets : rest.head? = some (place count)) :
    steps ((List.range count).map place ++ rest) =
      (List.range count).map (fun index => (place index, place (index + 1))) ++ steps rest := by
  -- one place less, for the places from the second one on
  induction count generalizing place with
  | zero => rfl
  | succ count inductionHypothesis =>
      have tail := inductionHypothesis (fun index => place (index + 1)) meets
      simp only [List.range_succ_eq_map, List.map_cons, List.map_map, List.cons_append,
        Function.comp_def, Nat.succ_eq_add_one] at tail ⊢
      rw [← tail]
      -- the second place is the first one of what is left, or where the rest begins
      cases count with
      | zero =>
          obtain ⟨after, rfl⟩ := List.head?_eq_some_iff.mp meets
          rfl
      | succ count =>
          simp only [List.range_succ_eq_map, List.map_cons, List.cons_append, steps, Nat.zero_add]

theorem steps_append_singleton (walk : List β) (place : β) :
    steps (walk ++ [place]) = walk.zip (walk.tail ++ [place]) := by
  fun_induction steps walk with
  | case1 => rfl
  | case2 => rfl
  | case3 start finish rest inductionHypothesis =>
      exact congrArg ((start, finish) :: ·) inductionHypothesis

/-- The steps of a walk back to its start. -/
theorem steps_closed {walk : List β} {start : β} (isStart : walk.head? = some start) :
    steps (walk ++ [start]) = walk.zip (walk.rotate 1) := by
  obtain ⟨rest, rfl⟩ := List.head?_eq_some_iff.mp isStart
  rw [steps_append_singleton, List.rotate_cons_succ, List.rotate_zero, List.tail_cons]

end Walks

/-!
## The four sides

Each side is walked clockwise: the north side from the west, the east side from
the north, the south side from the east, the west side from the south.
-/

def north (index : Nat) : Nat × Nat := (index, 0)

def east (last index : Nat) : Nat × Nat := (last, index)

def south (last index : Nat) : Nat × Nat := (last - index, last)

def west (last index : Nat) : Nat × Nat := (0, last - index)

/-- Every position of the border, clockwise from the north-west corner. -/
def border (last : Nat) : List (Nat × Nat) :=
  (List.range last).map north ++ ((List.range last).map (east last) ++
    ((List.range last).map (south last) ++ (List.range last).map (west last)))

theorem countDown_eq (last : Nat) : countDown last = (List.range last).map (last - ·) := by
  apply List.ext_getElem
  · simp [countDown]
  · intro index isLeft isRight
    simp only [countDown, List.getElem_reverse, List.getElem_map, List.getElem_range,
      List.length_map, List.length_range]
    simp only [List.length_map, List.length_range] at isRight
    omega

theorem borderLoop_eq (size : Nat) : borderLoop size = border (size - 1) ++ [north 0] := by
  simp only [borderLoop, countDown_eq, List.map_map, border, List.append_assoc]
  rfl

theorem head?_run {β : Type} (place : Nat → β) {count : Nat} (positive : 0 < count)
    (rest : List β) : ((List.range count).map place ++ rest).head? = some (place 0) := by
  obtain ⟨below, rfl⟩ := Nat.exists_eq_add_of_lt positive
  simp [List.range_succ_eq_map]

theorem head?_border {last : Nat} (positive : 0 < last) : (border last).head? = some (north 0) :=
  head?_run north positive _

/-- Along each side by one position; each side ends where the next one begins. -/
theorem steps_borderLoop {last : Nat} (positive : 0 < last) :
    steps (border last ++ [north 0]) =
      (List.range last).map (fun index => (north index, north (index + 1))) ++
        ((List.range last).map (fun index => (east last index, east last (index + 1))) ++
          ((List.range last).map (fun index => (south last index, south last (index + 1))) ++
            (List.range last).map fun index => (west last index, west last (index + 1)))) := by
  have northEast : north last = east last 0 := rfl
  have southEast : east last last = south last 0 := rfl
  have southWest : south last last = west last 0 := by simp [south, west]
  have northWest : west last last = north 0 := by simp [west, north]
  simp only [border, List.append_assoc]
  rw [steps_run north last (northEast ▸ head?_run (east last) positive _),
    steps_run (east last) last (southEast ▸ head?_run (south last) positive _),
    steps_run (south last) last (southWest ▸ head?_run (west last) positive _),
    steps_run (west last) last (northWest ▸ rfl)]
  simp [steps]

/-! ## The positions of the curtain -/

theorem reverse_innerRange (last : Nat) :
    (innerRange last).reverse = (List.range (last - 1)).map (last - 1 - ·) :=
  countDown_eq (last - 1)

def innerRun (place : Nat → Nat × Nat) (inner : Nat) : List (Nat × Nat) :=
  (List.range inner).map fun index => place (index + 1)

/-- The four corners, then the inner positions of each side. -/
theorem curtainSources_eq (inner : Nat) :
    curtainSources (inner + 2) =
      [north 0, east (inner + 1) 0, south (inner + 1) 0, west (inner + 1) 0] ++
        (innerRun north inner ++ (innerRun (east (inner + 1)) inner ++
          (innerRun (south (inner + 1)) inner ++ innerRun (west (inner + 1)) inner))) := by
  simp only [curtainSources, reverse_innerRange, List.map_map, List.append_assoc]
  simp only [innerRange, List.map_map]
  congr 1
  congr 1
  congr 1
  congr 1
  · apply List.map_congr_left
    intro index isIndex
    simp [south]
  · apply List.map_congr_left
    intro index isIndex
    simp [west]

theorem cons_run {β : Type} (place : Nat → β) (inner : Nat) :
    (List.range (inner + 1)).map place =
      place 0 :: (List.range inner).map fun index => place (index + 1) := by
  rw [List.range_succ_eq_map, List.map_cons, List.map_map]
  rfl

/-- The walk and the numbering of the curtain pass the same positions. -/
theorem border_perm {last : Nat} (positive : 0 < last) :
    (border last).Perm (curtainSources (last + 1)) := by
  obtain ⟨inner, rfl⟩ := Nat.exists_eq_add_one.mpr positive
  -- each side of the walk begins with its corner
  rw [border, curtainSources_eq, cons_run, cons_run, cons_run, cons_run, List.perm_iff_count]
  intro place
  simp only [List.count_append, List.count_cons, List.count_nil, innerRun]
  omega

/-! ## The numbers of the curtain -/

/-- The number of the curtain vertex below a position of the border. -/
def curtainNumber (size : Nat) (place : Nat × Nat) : Nat := curtainVertex size place.1 place.2

theorem curtainNumber_corner (inner : Nat) :
    [north 0, east (inner + 1) 0, south (inner + 1) 0, west (inner + 1) 0].map
        (curtainNumber (inner + 2)) =
      (List.range 4).map fun index => (inner + 2) * (inner + 2) + index := by
  simp [curtainNumber, curtainVertex, north, east, south, west, List.range_succ]

theorem curtainNumber_inner {inner index : Nat} (inside : index < inner) :
    curtainNumber (inner + 2) (north (index + 1)) = (inner + 2) * (inner + 2) + (4 + index) ∧
      curtainNumber (inner + 2) (east (inner + 1) (index + 1)) =
        (inner + 2) * (inner + 2) + (4 + (inner + index)) ∧
      curtainNumber (inner + 2) (south (inner + 1) (index + 1)) =
        (inner + 2) * (inner + 2) + (4 + (inner + (inner + index))) ∧
      curtainNumber (inner + 2) (west (inner + 1) (index + 1)) =
        (inner + 2) * (inner + 2) + (4 + (inner + (inner + (inner + index)))) := by
  refine ⟨?_, ?_, ?_, ?_⟩
  · unfold curtainNumber curtainVertex north
    grind
  · unfold curtainNumber curtainVertex east
    grind
  · unfold curtainNumber curtainVertex south
    grind
  · unfold curtainNumber curtainVertex west
    grind

/-- Curtain vertices are numbered in the order of their positions. -/
theorem map_curtainNumber {last : Nat} (positive : 0 < last) :
    (curtainSources (last + 1)).map (curtainNumber (last + 1)) =
      (List.range (4 * last)).map fun index => (last + 1) * (last + 1) + index := by
  obtain ⟨inner, rfl⟩ := Nat.exists_eq_add_one.mpr positive
  have count : 4 * (inner + 1) = 4 + (inner + (inner + (inner + inner))) := by omega
  have side {place number} (numbered : ∀ index < inner,
      curtainNumber (inner + 2) (place (index + 1)) = number index) :
      (innerRun place inner).map (curtainNumber (inner + 2)) = (List.range inner).map number := by
    rw [innerRun, List.map_map]
    exact List.map_congr_left fun index isIndex => numbered index (List.mem_range.mp isIndex)
  rw [curtainSources_eq, count]
  simp only [List.map_append, List.range_add, List.map_map, Function.comp_def]
  rw [curtainNumber_corner, side fun index inside => (curtainNumber_inner inside).1,
    side fun index inside => (curtainNumber_inner inside).2.1,
    side fun index inside => (curtainNumber_inner inside).2.2.1,
    side fun index inside => (curtainNumber_inner inside).2.2.2]

section Border

variable {last : Nat}

theorem nodup_map_curtainNumber (positive : 0 < last) :
    ((border last).map (curtainNumber (last + 1))).Nodup := by
  rw [((border_perm positive).map _).nodup_iff, map_curtainNumber positive]
  exact List.nodup_range.map fun index other agree => Nat.add_left_cancel agree

/-- No position is passed twice. -/
theorem nodup_border (positive : 0 < last) : (border last).Nodup :=
  (nodup_map_curtainNumber positive).of_map _

theorem mem_map_curtainNumber (positive : 0 < last) (vertex : Nat) :
    vertex ∈ (border last).map (curtainNumber (last + 1)) ↔
      (last + 1) * (last + 1) ≤ vertex ∧ vertex < (last + 1) * (last + 1) + 4 * last := by
  rw [((border_perm positive).map _).mem_iff, map_curtainNumber positive, List.mem_map]
  constructor
  · rintro ⟨index, isIndex, rfl⟩
    rw [List.mem_range] at isIndex
    omega
  · rintro ⟨least, below⟩
    exact ⟨vertex - (last + 1) * (last + 1), List.mem_range.mpr (by omega), by omega⟩

theorem length_border (last : Nat) : (border last).length = 4 * last := by
  simp only [border, List.length_append, List.length_map, List.length_range]
  omega

theorem mem_border_le {place : Nat × Nat} (isBorder : place ∈ border last) :
    place.1 ≤ last ∧ place.2 ≤ last := by
  simp only [border, List.mem_append, List.mem_map, List.mem_range] at isBorder
  rcases isBorder with ⟨index, inside, rfl⟩ | ⟨index, inside, rfl⟩ | ⟨index, inside, rfl⟩ |
    ⟨index, inside, rfl⟩
  all_goals
    simp only [north, east, south, west]
    omega

/-! ## Steps along the border -/

def borderSteps (last : Nat) : List ((Nat × Nat) × (Nat × Nat)) := steps (border last ++ [north 0])

theorem borderSteps_eq_zip (positive : 0 < last) :
    borderSteps last = (border last).zip ((border last).rotate 1) :=
  steps_closed (head?_border positive)

/-- A step goes along one of the four sides. -/
theorem exists_index_of_mem_steps (positive : 0 < last) {step : (Nat × Nat) × (Nat × Nat)}
    (isStep : step ∈ borderSteps last) :
    ∃ index < last, step = (north index, north (index + 1)) ∨
      step = (east last index, east last (index + 1)) ∨
      step = (south last index, south last (index + 1)) ∨
      step = (west last index, west last (index + 1)) := by
  rw [borderSteps, steps_borderLoop positive] at isStep
  simp only [List.mem_append, List.mem_map, List.mem_range] at isStep
  rcases isStep with ⟨index, inside, rfl⟩ | ⟨index, inside, rfl⟩ | ⟨index, inside, rfl⟩ |
    ⟨index, inside, rfl⟩
  all_goals exact ⟨index, inside, by simp⟩

theorem step_ne (positive : 0 < last) {step : (Nat × Nat) × (Nat × Nat)}
    (isStep : step ∈ borderSteps last) : step.1 ≠ step.2 := by
  obtain ⟨index, inside, rfl | rfl | rfl | rfl⟩ := exists_index_of_mem_steps positive isStep
  all_goals
    simp only [north, east, south, west, ne_eq, Prod.mk.injEq]
    omega

theorem mem_border_of_mem_steps (positive : 0 < last) {step : (Nat × Nat) × (Nat × Nat)}
    (isStep : step ∈ borderSteps last) : step.1 ∈ border last ∧ step.2 ∈ border last := by
  rw [borderSteps_eq_zip positive] at isStep
  obtain ⟨isStart, isFinish⟩ := List.of_mem_zip isStep
  exact ⟨isStart, List.mem_rotate.mp isFinish⟩

theorem map_fst_borderSteps (positive : 0 < last) :
    (borderSteps last).map Prod.fst = border last := by
  rw [borderSteps_eq_zip positive]
  exact List.map_fst_zip (List.length_rotate _ _).ge

theorem nodup_borderSteps (positive : 0 < last) : (borderSteps last).Nodup :=
  List.Nodup.of_map Prod.fst ((map_fst_borderSteps positive).symm ▸ nodup_border positive)

theorem map_snd_borderSteps (positive : 0 < last) :
    ((borderSteps last).map Prod.snd).Perm (border last) := by
  rw [borderSteps_eq_zip positive, List.map_snd_zip (List.length_rotate _ _).le]
  exact List.rotate_perm _ 1

end Border

end TileAtlas.Mesh
