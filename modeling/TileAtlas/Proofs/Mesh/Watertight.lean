import TileAtlas.Proofs.Mesh.Edges
import TileAtlas.Proofs.Mesh.Surface
import TileAtlas.Proofs.Sequence

/-!
Contract: the surface of a square grid with its curtain is watertight.

Owns:
- `Spot`, a vertex by its grid position, and `vertexOf`, which numbers the spots
  without a gap;
- `cell` and `wall`, the panels that all triangles come from;
- `Seam`, an edge by its kind and its position; no two seams join the same spots;
- `seams_perm`: every seam but those of the rim is met by two triangles;
- `isWatertight_indices`, for triangles that name vertices by 32-bit words;
- `Surface.getElem?_sources` and `Surface.IsOver.size_vertices`: how many vertices
  a surface that was built has, and over which positions.

## Where two panels meet

Two neighbouring cells share a row edge or a column edge.  A cell on the border
shares its outer edge with the wall below it, two walls in a row share the edge
between them, and the two triangles of a panel share its diagonal.  What is left
is the lower edge of each wall.
-/

namespace TileAtlas

namespace Mesh

/-! ## Vertices -/

/-- A vertex, on the surface or at the lower end of the curtain. -/
inductive Spot where
  | surface (place : Nat × Nat)
  | curtain (place : Nat × Nat)
deriving DecidableEq, Repr

def vertexOf (size : Nat) : Spot → Nat
  | .surface place => gridVertex size place.1 place.2
  | .curtain place => curtainNumber size place

def Spot.place : Spot → Nat × Nat
  | .surface place => place
  | .curtain place => place

/-- A spot of the grid whose greatest column and row is `last`. -/
def Spot.IsOn (last : Nat) : Spot → Prop
  | .surface place => place.1 ≤ last ∧ place.2 ≤ last
  | .curtain place => place ∈ border last

theorem exists_last {size : Nat} (large : 2 ≤ size) : ∃ last, 0 < last ∧ size = last + 1 :=
  ⟨size - 1, by omega, by omega⟩

section Vertices

variable {last : Nat}

theorem gridVertex_inj {x y x' y' : Nat} (inside : x ≤ last) (inside' : x' ≤ last)
    (agree : gridVertex (last + 1) x y = gridVertex (last + 1) x' y') : x = x' ∧ y = y' := by
  unfold gridVertex at agree
  have column : x = x' := by
    have remainder := congrArg (· % (last + 1)) agree
    simpa only [Nat.mul_add_mod_of_lt (Nat.lt_succ_of_le inside),
      Nat.mul_add_mod_of_lt (Nat.lt_succ_of_le inside')] using remainder
  subst column
  exact ⟨rfl, Nat.eq_of_mul_eq_mul_right (Nat.succ_pos last) (Nat.add_right_cancel agree)⟩

theorem gridVertex_lt {x y : Nat} (inX : x ≤ last) (inY : y ≤ last) :
    gridVertex (last + 1) x y < (last + 1) * (last + 1) :=
  rowMajor_lt (Nat.lt_succ_of_le inX) (Nat.lt_succ_of_le inY)

theorem vertexOf_injOn (positive : 0 < last) :
    {spot | Spot.IsOn last spot}.InjOn (vertexOf (last + 1)) := by
  have below {place : Nat × Nat} (isBorder : place ∈ border last) :=
    (mem_map_curtainNumber positive _).mp (List.mem_map_of_mem isBorder)
  intro left isLeft right isRight agree
  cases left with
  | surface place =>
      cases right with
      | surface other =>
          obtain ⟨column, row⟩ := gridVertex_inj isLeft.1 isRight.1 agree
          exact congrArg Spot.surface (Prod.ext column row)
      | curtain other =>
          have := gridVertex_lt isLeft.1 isLeft.2
          have := (below isRight).1
          simp only [vertexOf] at agree
          omega
  | curtain place =>
      cases right with
      | surface other =>
          have := gridVertex_lt isRight.1 isRight.2
          have := (below isLeft).1
          simp only [vertexOf] at agree
          omega
      | curtain other =>
          exact congrArg Spot.curtain
            (List.inj_on_of_nodup_map (nodup_map_curtainNumber positive) isLeft isRight agree)

theorem image_spots (positive : 0 < last) :
    vertexOf (last + 1) '' {spot | Spot.IsOn last spot} =
      {vertex | vertex < vertexCount (last + 1)} := by
  ext vertex
  have count : vertexCount (last + 1) = (last + 1) * (last + 1) + 4 * last := rfl
  rw [Set.mem_image, Set.mem_ofPred_eq, count]
  constructor
  · rintro ⟨spot, isOn, rfl⟩
    cases spot with
    | surface place => exact Nat.lt_add_right _ (gridVertex_lt isOn.1 isOn.2)
    | curtain place =>
        exact ((mem_map_curtainNumber positive _).mp (List.mem_map_of_mem isOn)).2
  · intro below
    by_cases isSurface : vertex < (last + 1) * (last + 1)
    · refine ⟨.surface (vertex % (last + 1), vertex / (last + 1)), ⟨?_, ?_⟩, ?_⟩
      · exact Nat.le_of_lt_succ (Nat.mod_lt vertex (Nat.succ_pos last))
      · exact Nat.le_of_lt_succ (Nat.div_lt_of_lt_mul isSurface)
      · exact Nat.div_add_mod' vertex (last + 1)
    · obtain ⟨place, isBorder, isVertex⟩ := List.mem_map.mp
        ((mem_map_curtainNumber positive vertex).mpr ⟨Nat.le_of_not_lt isSurface, below⟩)
      exact ⟨.curtain place, isBorder, isVertex⟩

end Vertices

/-! ## Panels -/

/-- The panel of a cell, by its north-west corner. -/
def cell (place : Nat × Nat) : Panel Spot :=
  ⟨.surface place, .surface (place.1, place.2 + 1), .surface (place.1 + 1, place.2),
    .surface (place.1 + 1, place.2 + 1)⟩

def wall (step : (Nat × Nat) × (Nat × Nat)) : Panel Spot :=
  ⟨.surface step.1, .curtain step.1, .surface step.2, .curtain step.2⟩

def panels (last : Nat) : List (Panel Spot) :=
  (block last last).map cell ++ (borderSteps last).map wall

def spotTriangles (last : Nat) : List (Triangle Spot) := (panels last).flatMap Panel.triangles

/-- The triangles of panels, with their vertices numbered. -/
def numbered (size : Nat) (panels : List (Panel Spot)) : List Nat :=
  ((panels.flatMap Panel.triangles).map (Triangle.map (vertexOf size))).flatMap Triangle.corners

theorem numbered_eq (size : Nat) (panels : List (Panel Spot)) :
    numbered size panels = panels.flatMap fun panel =>
      panel.triangles.flatMap fun triangle => triangle.corners.map (vertexOf size) := by
  rw [numbered, List.flatMap_map, List.flatMap_assoc]
  rfl

theorem gridTriangles_eq (last : Nat) :
    gridTriangles (last + 1) = numbered (last + 1) ((block last last).map cell) := by
  rw [numbered_eq, gridTriangles, block, List.map_flatMap, List.flatMap_assoc]
  simp only [List.flatMap_map, List.map_map]
  rfl

theorem curtainTriangles_eq (last : Nat) :
    curtainTriangles (last + 1) = numbered (last + 1) ((borderSteps last).map wall) := by
  rw [numbered_eq, curtainTriangles, walkTriangles_eq, borderLoop_eq, List.flatMap_map]
  rfl

theorem triangles_eq (last : Nat) :
    gridTriangles (last + 1) ++ curtainTriangles (last + 1) =
      ((spotTriangles last).map (Triangle.map (vertexOf (last + 1)))).flatMap Triangle.corners := by
  rw [gridTriangles_eq, curtainTriangles_eq, numbered_eq, numbered_eq, ← List.flatMap_append,
    ← numbered_eq]
  rfl

section Corners

variable {last : Nat}

theorem corners_of_mem_panels (positive : 0 < last) {panel : Panel Spot}
    (isIn : panel ∈ panels last) :
    panel.corners.Nodup ∧ ∀ spot ∈ panel.corners, spot.IsOn last := by
  rcases List.mem_append.mp isIn with isCell | isWall
  · obtain ⟨⟨x, y⟩, isPlace, rfl⟩ := List.mem_map.mp isCell
    obtain ⟨inX, inY⟩ := mem_block.mp isPlace
    simp only [cell, Panel.corners, List.forall_mem_cons, Spot.IsOn]
    refine ⟨by simp, ?_⟩
    refine ⟨?_, ?_, ?_, ?_, by simp⟩
    all_goals omega
  · obtain ⟨step, isStep, rfl⟩ := List.mem_map.mp isWall
    obtain ⟨isStart, isFinish⟩ := mem_border_of_mem_steps positive isStep
    simp only [wall, Panel.corners, List.forall_mem_cons, Spot.IsOn]
    refine ⟨by simp [step_ne positive isStep], ?_⟩
    exact ⟨mem_border_le isStart, isStart, mem_border_le isFinish, isFinish, by simp⟩

end Corners

/-! ## Seams -/

/-- An edge between grid positions: on the surface, from a lower spot to an
upper one, or along the lower end of the curtain. -/
inductive Seam where
  | surface (edge : Sym2 (Nat × Nat))
  | hang (pair : (Nat × Nat) × (Nat × Nat))
  | rim (edge : Sym2 (Nat × Nat))
deriving DecidableEq

namespace Seam

def ends : Seam → Sym2 Spot
  | surface edge => edge.map .surface
  | hang pair => s(.curtain pair.1, .surface pair.2)
  | rim edge => edge.map .curtain

theorem surface_ne_hang (edge : Sym2 (Nat × Nat)) (pair : (Nat × Nat) × (Nat × Nat)) :
    (surface edge).ends ≠ (hang pair).ends := by
  induction edge using Sym2.ind with
  | _ first second => simp [ends]

theorem rim_ne_hang (edge : Sym2 (Nat × Nat)) (pair : (Nat × Nat) × (Nat × Nat)) :
    (rim edge).ends ≠ (hang pair).ends := by
  induction edge using Sym2.ind with
  | _ first second => simp [ends]

theorem surface_ne_rim (edge other : Sym2 (Nat × Nat)) :
    (surface edge).ends ≠ (rim other).ends := by
  induction edge using Sym2.ind with
  | _ first second =>
      induction other using Sym2.ind with
      | _ third fourth => simp [ends]

/-- No two seams join the same spots. -/
theorem ends_injective : Function.Injective ends := by
  intro seam other agree
  cases seam with
  | surface edge =>
      cases other with
      | surface other =>
          exact congrArg surface (Sym2.map.injective (fun _ _ => Spot.surface.inj) agree)
      | hang pair => exact absurd agree (surface_ne_hang edge pair)
      | rim other => exact absurd agree (surface_ne_rim edge other)
  | hang pair =>
      cases other with
      | surface edge => exact absurd agree.symm (surface_ne_hang edge pair)
      | hang other => simpa [ends, Prod.ext_iff] using agree
      | rim edge => exact absurd agree.symm (rim_ne_hang edge pair)
  | rim edge =>
      cases other with
      | surface other => exact absurd agree.symm (surface_ne_rim other edge)
      | hang pair => exact absurd agree (rim_ne_hang edge pair)
      | rim other => exact congrArg rim (Sym2.map.injective (fun _ _ => Spot.curtain.inj) agree)

end Seam

/-- The pairs that are joined across the height of the curtain: each position
with itself, and each position with the next one of the walk. -/
def hangs (last : Nat) : List ((Nat × Nat) × (Nat × Nat)) :=
  (border last).map (fun place => (place, place)) ++ borderSteps last

def innerSeams (last : Nat) : List Seam :=
  (gridEdges last).map .surface ++ (hangs last).map .hang

def rimSeams (last : Nat) : List Seam := (closedEdges (border last)).map .rim

section Seams

variable {last : Nat}

theorem nodup_hangs (positive : 0 < last) : (hangs last).Nodup := by
  refine List.Nodup.append ?_ ?_ ?_
  · exact (nodup_border positive).map fun place other agree => (Prod.ext_iff.mp agree).1
  · exact nodup_borderSteps positive
  · intro pair isPost isStep
    obtain ⟨place, -, rfl⟩ := List.mem_map.mp isPost
    exact step_ne positive isStep rfl

theorem nodup_seams (positive : 0 < last) : (innerSeams last ++ rimSeams last).Nodup := by
  have grid : (gridEdges last).Nodup :=
    nodup_edges (nodup_block _ _) (nodup_block _ _) (nodup_block _ _)
  refine List.Nodup.append (List.Nodup.append ?_ ?_ ?_) ?_ ?_
  · exact grid.map fun edge other => Seam.surface.inj
  · exact (nodup_hangs positive).map fun pair other => Seam.hang.inj
  · intro seam isSurface isHang
    obtain ⟨edge, -, rfl⟩ := List.mem_map.mp isSurface
    simp at isHang
  · exact (nodup_closedEdges_border positive).map fun edge other => Seam.rim.inj
  · intro seam isInner isRim
    obtain ⟨edge, -, rfl⟩ := List.mem_map.mp isRim
    simp [innerSeams] at isInner

/-! ### The sides of the panels -/

def panelSeams (last : Nat) (ofCell : Nat × Nat → Seam)
    (ofWall : (Nat × Nat) × (Nat × Nat) → Seam) : List Seam :=
  (block last last).map ofCell ++ (borderSteps last).map ofWall

theorem map_panels {edge : Panel Spot → Sym2 Spot} {ofCell : Nat × Nat → Seam}
    {ofWall : (Nat × Nat) × (Nat × Nat) → Seam}
    (cells : ∀ place, edge (cell place) = (ofCell place).ends)
    (walls : ∀ step, edge (wall step) = (ofWall step).ends) :
    (panels last).map edge = (panelSeams last ofCell ofWall).map Seam.ends := by
  simp only [panels, panelSeams, List.map_append, List.map_map]
  exact congr (congrArg _ (List.map_congr_left fun place _ => cells place))
    (List.map_congr_left fun step _ => walls step)

def diagonals (last : Nat) : List Seam :=
  panelSeams last (fun place => .surface (slant place)) .hang

def starts (last : Nat) : List Seam :=
  panelSeams last (fun place => .surface (down (moved 0 0 place))) fun step =>
    .hang (step.1, step.1)

def finishes (last : Nat) : List Seam :=
  panelSeams last (fun place => .surface (down (moved 1 0 place))) fun step =>
    .hang (step.2, step.2)

def uppers (last : Nat) : List Seam :=
  panelSeams last (fun place => .surface (across (moved 0 0 place))) fun step =>
    .surface s(step.1, step.2)

def lowers (last : Nat) : List Seam :=
  panelSeams last (fun place => .surface (across (moved 0 1 place))) fun step =>
    .rim s(step.1, step.2)

theorem sides_panels (last : Nat) :
    ((spotTriangles last).flatMap Triangle.sides).Perm
      (((diagonals last ++ diagonals last) ++ (starts last ++ finishes last) ++
        (uppers last ++ lowers last)).map Seam.ends) := by
  have diagonal : (panels last).map Panel.diagonal = (diagonals last).map Seam.ends :=
    map_panels (fun place => rfl) fun step => rfl
  have start : (panels last).map Panel.start = (starts last).map Seam.ends :=
    map_panels (fun place => rfl) fun step => Sym2.eq_swap
  have finish : (panels last).map Panel.finish = (finishes last).map Seam.ends :=
    map_panels (fun place => rfl) fun step => Sym2.eq_swap
  have upper : (panels last).map Panel.upper = (uppers last).map Seam.ends :=
    map_panels (fun place => rfl) fun step => rfl
  have lower : (panels last).map Panel.lower = (lowers last).map Seam.ends :=
    map_panels (fun place => rfl) fun step => rfl
  simp only [List.map_append, ← diagonal, ← start, ← finish, ← upper, ← lower]
  exact Panel.sides_perm (panels last)

/-- Every seam but those of the rim is met twice. -/
theorem seams_perm (positive : 0 < last) :
    ((diagonals last ++ diagonals last) ++ (starts last ++ finishes last) ++
      (uppers last ++ lowers last)).Perm (innerSeams last ++ innerSeams last ++ rimSeams last) := by
  -- the cells' edges on one side, completed by the outer edges of the other side
  have north : (row last 0 ++ (block last last).map (moved 0 1)).Perm (block last (last + 1)) :=
    row_perm (.inl ⟨rfl, rfl⟩)
  have south : (row last last ++ (block last last).map (moved 0 0)).Perm (block last (last + 1)) :=
    row_perm (.inr ⟨rfl, rfl⟩)
  have west : (column last 0 ++ (block last last).map (moved 1 0)).Perm (block (last + 1) last) :=
    column_perm (.inl ⟨rfl, rfl⟩)
  have east : (column last last ++ (block last last).map (moved 0 0)).Perm (block (last + 1) last) :=
    column_perm (.inr ⟨rfl, rfl⟩)
  refine List.perm_iff_count.mpr fun seam => ?_
  have northCount := ((north.map across).map Seam.surface).count_eq seam
  have southCount := ((south.map across).map Seam.surface).count_eq seam
  have westCount := ((west.map down).map Seam.surface).count_eq seam
  have eastCount := ((east.map down).map Seam.surface).count_eq seam
  have outerCount := ((closedEdges_border positive).map Seam.surface).count_eq seam
  -- every position is the start of one step and the finish of another
  have startCount := congrArg (fun places => (places.map fun place =>
    Seam.hang (place, place)).count seam) (map_fst_borderSteps positive)
  have finishCount := ((map_snd_borderSteps positive).map fun place =>
    Seam.hang (place, place)).count_eq seam
  simp only [closedEdges, ← borderSteps_eq_zip positive, List.map_append, List.count_append,
    List.map_map, Function.comp_def]
    at northCount southCount westCount eastCount outerCount startCount finishCount
  simp only [diagonals, starts, finishes, uppers, lowers, panelSeams, innerSeams, gridEdges, hangs,
    rimSeams, closedEdges, ← borderSteps_eq_zip positive, List.map_append, List.count_append,
    List.map_map, Function.comp_def]
  omega

end Seams

/-! ## The surface -/

section Whole

variable {last : Nat}

/-- Each spot is the end of a seam that is shared by two triangles. -/
theorem exists_inner_of_isOn {spot : Spot} (positive : 0 < last) (isOn : spot.IsOn last) :
    ∃ edge ∈ (innerSeams last).map Seam.ends, spot ∈ edge := by
  suffices found : ∃ seam ∈ innerSeams last, spot ∈ seam.ends by
    obtain ⟨seam, isInner, isEnd⟩ := found
    exact ⟨seam.ends, List.mem_map_of_mem isInner, isEnd⟩
  cases spot with
  | surface place =>
      have isEdge (start : Nat × Nat) (inX : start.1 < last) (inY : start.2 < last + 1) :
          Seam.surface (across start) ∈ innerSeams last := by
        have isRow : start ∈ block last (last + 1) := mem_block.mpr ⟨inX, inY⟩
        simp only [innerSeams, gridEdges, List.mem_append]
        exact .inl (List.mem_map_of_mem (List.mem_append_right _
          (List.mem_append_left _ (List.mem_map_of_mem isRow))))
      by_cases inside : place.1 < last
      · refine ⟨_, isEdge place inside (Nat.lt_succ_of_le isOn.2), ?_⟩
        simp [Seam.ends, across]
      · -- the edge that ends in the last column
        have start : last - 1 < last := Nat.sub_lt positive Nat.one_pos
        refine ⟨_, isEdge (last - 1, place.2) start (Nat.lt_succ_of_le isOn.2), ?_⟩
        have column : place = (last - 1 + 1, place.2) := by
          have := isOn.1
          exact Prod.ext (by omega) rfl
        rw [column]
        simp [Seam.ends, across]
  | curtain place =>
      refine ⟨.hang (place, place), List.mem_append_right _ ?_, by simp [Seam.ends]⟩
      exact List.mem_map_of_mem (List.mem_append_left _ (List.mem_map_of_mem isOn))

theorem isWatertight_spotTriangles (positive : 0 < last) :
    IsWatertight (spotTriangles last) {spot | Spot.IsOn last spot}
      ((border last).map Spot.curtain) := by
  have rim : closedEdges ((border last).map Spot.curtain) = (rimSeams last).map Seam.ends := by
    rw [closedEdges_map, rimSeams, List.map_map]
    rfl
  apply IsWatertight.of_perm ((innerSeams last).map Seam.ends)
  · intro triangle isIn
    obtain ⟨panel, isPanel, isIn⟩ := List.mem_flatMap.mp isIn
    exact Panel.nodup_of_mem_triangles (corners_of_mem_panels positive isPanel).1 isIn
  · intro triangle isIn corner isCorner
    obtain ⟨panel, isPanel, isIn⟩ := List.mem_flatMap.mp isIn
    exact (corners_of_mem_panels positive isPanel).2 corner
      (Panel.mem_corners_of_mem_triangles isIn isCorner)
  · exact fun spot isOn => exists_inner_of_isOn positive isOn
  · exact (nodup_border positive).map fun place other => Spot.curtain.inj
  · intro spot isRim
    obtain ⟨place, isBorder, rfl⟩ := List.mem_map.mp isRim
    exact isBorder
  · rw [rim, ← List.map_append, ← List.map_append]
    exact (sides_panels last).trans ((seams_perm positive).map Seam.ends)
  · rw [rim, ← List.map_append]
    exact (nodup_seams positive).map Seam.ends_injective

theorem isWatertight_numbered (positive : 0 < last) :
    IsWatertight ((spotTriangles last).map (Triangle.map (vertexOf (last + 1))))
      {vertex | vertex < vertexCount (last + 1)}
      ((border last).map (curtainNumber (last + 1))) := by
  have image := (isWatertight_spotTriangles positive).image (vertexOf_injOn positive)
  rw [image_spots positive, List.map_map] at image
  exact image

/-- The words of all triangles of a surface with its curtain. -/
def indices (size : Nat) : List Nat :=
  (gridTriangles size ++ curtainTriangles size).map vertexWord

/-- Words of 32 bits hold the vertices of all panels. -/
theorem words_numbered (positive : 0 < last) (fits : vertexCount (last + 1) ≤ 2 ^ 32)
    {part : List (Panel Spot)} (isPart : ∀ panel ∈ part, panel ∈ panels last) :
    (numbered (last + 1) part).map vertexWord = numbered (last + 1) part := by
  refine (List.map_congr_left fun vertex isIn => ?_).trans (List.map_id _)
  obtain ⟨_, isNamed, isCorner⟩ := List.mem_flatMap.mp isIn
  obtain ⟨triangle, isTriangle, rfl⟩ := List.mem_map.mp isNamed
  obtain ⟨panel, isPanel, isTriangle⟩ := List.mem_flatMap.mp isTriangle
  have isSpot : triangle ∈ spotTriangles last :=
    List.mem_flatMap.mpr ⟨panel, isPart panel isPanel, isTriangle⟩
  have below : vertex < vertexCount (last + 1) :=
    (isWatertight_numbered positive).isOn _ (List.mem_map_of_mem isSpot) vertex isCorner
  exact Nat.mod_eq_of_lt (below.trans_le fits)

theorem indices_eq (positive : 0 < last) (fits : vertexCount (last + 1) ≤ 2 ^ 32) :
    indices (last + 1) =
      ((spotTriangles last).map (Triangle.map (vertexOf (last + 1)))).flatMap Triangle.corners := by
  rw [indices, triangles_eq]
  exact words_numbered positive fits fun panel isIn => isIn

end Whole

/-- Every surface whose vertices can be named by words is watertight: an edge
belongs to two triangles, but for those of one closed walk through all curtain
vertices, which belong to one. -/
theorem isWatertight_indices (size : Nat) (large : 2 ≤ size) (fits : vertexCount size ≤ 2 ^ 32) :
    (Triangle.listOf (indices size)).flatMap Triangle.corners = indices size ∧
      ∃ rim : List Nat, (closedEdges rim).length = 4 * (size - 1) ∧
        (∀ vertex, vertex ∈ rim ↔ size * size ≤ vertex ∧ vertex < vertexCount size) ∧
        IsWatertight (Triangle.listOf (indices size)) {vertex | vertex < vertexCount size} rim := by
  obtain ⟨last, positive, rfl⟩ := exists_last large
  have triangles : Triangle.listOf (indices (last + 1)) =
      (spotTriangles last).map (Triangle.map (vertexOf (last + 1))) := by
    rw [indices_eq positive fits, Triangle.listOf_corners]
  rw [triangles]
  refine ⟨(indices_eq positive fits).symm, (border last).map (curtainNumber (last + 1)), ?_,
    mem_map_curtainNumber positive, isWatertight_numbered positive⟩
  rw [length_closedEdges, List.length_map, length_border, Nat.add_sub_cancel]

/-- Nine vertices with eight below their border. -/
theorem isWatertight_indices_three :
    2 ≤ 3 ∧ vertexCount 3 = 17 ∧ vertexCount 3 ≤ 2 ^ 32 ∧
      ∃ rim : List Nat, (closedEdges rim).length = 8 ∧
        (∀ vertex, vertex ∈ rim ↔ 9 ≤ vertex ∧ vertex < 17) ∧
        IsWatertight (Triangle.listOf (indices 3)) {vertex | vertex < 17} rim := by
  have fits : vertexCount 3 ≤ 2 ^ 32 := by decide
  obtain ⟨-, rim, whole⟩ := isWatertight_indices 3 (by decide) fits
  exact ⟨by decide, rfl, fits, rim, whole⟩

end Mesh

/-! ## Built surfaces -/

namespace Surface

theorem length_gridPositions (size : Nat) : (Mesh.gridPositions size).length = size * size := by
  simp [Mesh.gridPositions]

theorem length_curtainSources {last : Nat} (positive : 0 < last) :
    (Mesh.curtainSources (last + 1)).length = 4 * last := by
  rw [← (Mesh.border_perm positive).length_eq, Mesh.length_border]

/-- The vertex of a spot lies over or under the position of the spot. -/
theorem getElem?_sources {last : Nat} (positive : 0 < last) {spot : Mesh.Spot}
    (isOn : spot.IsOn last) :
    (sources (last + 1) true)[Mesh.vertexOf (last + 1) spot]? = some spot.place := by
  have grid := length_gridPositions (last + 1)
  rw [sources, if_pos rfl]
  cases spot with
  | surface place =>
      have inX : place.1 < last + 1 := Nat.lt_succ_of_le isOn.1
      have inY : place.2 < (List.range (last + 1)).length :=
        List.length_range.symm ▸ Nat.lt_succ_of_le isOn.2
      rw [List.getElem?_append_left (grid ▸ Mesh.gridVertex_lt isOn.1 isOn.2), Mesh.vertexOf,
        Mesh.gridVertex, Mesh.gridPositions, getElem?_flatMap_uniform _ _ (by simp) inY inX]
      simp [inX, Mesh.Spot.place]
  | curtain place =>
      have isSource : place ∈ Mesh.curtainSources (last + 1) :=
        (Mesh.border_perm positive).mem_iff.mp isOn
      obtain ⟨index, isIndex, rfl⟩ := List.mem_iff_getElem.mp isSource
      have inRange : index < 4 * last := length_curtainSources positive ▸ isIndex
      have number : Mesh.curtainNumber (last + 1) (Mesh.curtainSources (last + 1))[index] =
          (last + 1) * (last + 1) + index := by
        have numbers := congrArg (·[index]?) (Mesh.map_curtainNumber positive)
        simpa [isIndex, inRange] using numbers
      rw [Mesh.vertexOf, number, List.getElem?_append_right (by omega), grid,
        Nat.add_sub_cancel_left]
      exact List.getElem?_eq_getElem isIndex

variable {heights : Array Float32} {size : Nat} {extent : Extent Float} {surface : Surface}

theorem IsOver.size_vertices (isOver : surface.IsOver heights size extent true)
    (large : 2 ≤ size) : surface.vertices.size = Mesh.vertexCount size := by
  obtain ⟨last, positive, rfl⟩ := Mesh.exists_last large
  have points : (points extent (last + 1) heights true).length =
      (sources (last + 1) true).length := by
    simp [points, gridPoints, curtainPoints, sources]
  rw [← Array.length_toList, isOver.vertices, List.length_map, List.length_zip, points,
    Nat.min_self, sources, if_pos rfl, List.length_append, length_gridPositions,
    length_curtainSources positive]
  rfl

end Surface

end TileAtlas
