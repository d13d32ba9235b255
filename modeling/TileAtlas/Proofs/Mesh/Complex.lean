import Mathlib.Data.List.Nodup
import Mathlib.Data.List.Rotate
import Mathlib.Data.Set.Function
import Mathlib.Data.Sym.Sym2

/-!
Contract: triangle lists as complexes, whatever their vertices are.

Owns:
- `Triangle`, with its corners and its sides, and `Triangle.listOf`, which reads
  three vertices for each;
- `Panel`, two triangles with a common side, and `Panel.sides_perm`;
- `closedEdges`, the edges of a walk that returns to its start;
- `IsWatertight`: two triangles on each edge but those of one closed walk;
- `IsWatertight.of_perm`, which settles the two counts by one list of edges;
- `IsWatertight.image`: how vertices are named does not matter.

Does not own: which triangles a surface has.
-/

namespace TileAtlas.Mesh

/-- A triangle by its corners. -/
structure Triangle (β : Type) where
  first : β
  second : β
  third : β
deriving DecidableEq, Repr

namespace Triangle

variable {β γ : Type}

def corners (triangle : Triangle β) : List β := [triangle.first, triangle.second, triangle.third]

/-- The sides, without a direction. -/
def sides (triangle : Triangle β) : List (Sym2 β) :=
  [s(triangle.first, triangle.second), s(triangle.second, triangle.third),
    s(triangle.third, triangle.first)]

def map (rename : β → γ) (triangle : Triangle β) : Triangle γ :=
  ⟨rename triangle.first, rename triangle.second, rename triangle.third⟩

/-- The triangles of a list that names three vertices for each. -/
def listOf : List β → List (Triangle β)
  | first :: second :: third :: rest => ⟨first, second, third⟩ :: listOf rest
  | _ => []

theorem listOf_corners (triangles : List (Triangle β)) :
    listOf (triangles.flatMap corners) = triangles := by
  induction triangles with
  | nil => rfl
  | cons triangle triangles inductionHypothesis =>
      exact congrArg (triangle :: ·) inductionHypothesis

@[simp] theorem corners_map (rename : β → γ) (triangle : Triangle β) :
    (triangle.map rename).corners = triangle.corners.map rename := rfl

@[simp] theorem sides_map (rename : β → γ) (triangle : Triangle β) :
    (triangle.map rename).sides = triangle.sides.map (Sym2.map rename) := rfl

theorem nodup_sides {triangle : Triangle β} (isProper : triangle.corners.Nodup) :
    triangle.sides.Nodup := by
  simp only [corners, List.nodup_cons, List.mem_cons, List.not_mem_nil, or_false,
    not_or] at isProper
  obtain ⟨⟨firstSecond, firstThird⟩, secondThird, -⟩ := isProper
  simp only [sides, List.nodup_cons, List.mem_cons, List.not_mem_nil, or_false, not_or, Sym2.eq_iff]
  grind

theorem mem_corners_of_mem_side {triangle : Triangle β} {edge : Sym2 β} {vertex : β}
    (isSide : edge ∈ triangle.sides) (isEnd : vertex ∈ edge) : vertex ∈ triangle.corners := by
  simp only [sides, List.mem_cons, List.not_mem_nil, or_false] at isSide
  rcases isSide with rfl | rfl | rfl
  all_goals
    simp only [corners, List.mem_cons, List.not_mem_nil, or_false]
    rcases Sym2.mem_iff.mp isEnd with rfl | rfl
    all_goals simp

end Triangle

/-- Four corners, two above and two below, that are cut along a diagonal. -/
structure Panel (β : Type) where
  upperStart : β
  lowerStart : β
  upperFinish : β
  lowerFinish : β

namespace Panel

variable {β : Type}

def corners (panel : Panel β) : List β :=
  [panel.upperStart, panel.lowerStart, panel.upperFinish, panel.lowerFinish]

def triangles (panel : Panel β) : List (Triangle β) :=
  [⟨panel.upperStart, panel.lowerStart, panel.upperFinish⟩,
    ⟨panel.upperFinish, panel.lowerStart, panel.lowerFinish⟩]

def diagonal (panel : Panel β) : Sym2 β := s(panel.lowerStart, panel.upperFinish)

def start (panel : Panel β) : Sym2 β := s(panel.upperStart, panel.lowerStart)

def finish (panel : Panel β) : Sym2 β := s(panel.upperFinish, panel.lowerFinish)

def upper (panel : Panel β) : Sym2 β := s(panel.upperStart, panel.upperFinish)

def lower (panel : Panel β) : Sym2 β := s(panel.lowerStart, panel.lowerFinish)

theorem nodup_of_mem_triangles {panel : Panel β} (isProper : panel.corners.Nodup)
    {triangle : Triangle β} (isIn : triangle ∈ panel.triangles) : triangle.corners.Nodup := by
  simp only [corners, List.nodup_cons, List.mem_cons, List.not_mem_nil, or_false] at isProper
  simp only [triangles, List.mem_cons, List.not_mem_nil, or_false] at isIn
  rcases isIn with rfl | rfl
  all_goals
    simp only [Triangle.corners, List.nodup_cons, List.mem_cons, List.not_mem_nil, or_false]
    grind

theorem mem_corners_of_mem_triangles {panel : Panel β} {triangle : Triangle β} {corner : β}
    (isIn : triangle ∈ panel.triangles) (isCorner : corner ∈ triangle.corners) :
    corner ∈ panel.corners := by
  simp only [triangles, List.mem_cons, List.not_mem_nil, or_false] at isIn
  rcases isIn with rfl | rfl
  all_goals
    simp only [Triangle.corners, corners, List.mem_cons, List.not_mem_nil, or_false] at isCorner ⊢
    grind

/-- Both triangles have the diagonal; each other side is a side of one. -/
theorem sides_perm [DecidableEq β] (panels : List (Panel β)) :
    ((panels.flatMap triangles).flatMap Triangle.sides).Perm
      ((panels.map diagonal ++ panels.map diagonal) ++ (panels.map start ++ panels.map finish) ++
        (panels.map upper ++ panels.map lower)) := by
  rw [List.perm_iff_count]
  intro edge
  induction panels with
  | nil => rfl
  | cons panel panels inductionHypothesis =>
      have sides : panel.triangles.flatMap Triangle.sides =
          [panel.start, panel.diagonal, panel.upper, panel.diagonal, panel.lower,
            panel.finish] := by
        simp only [triangles, List.flatMap_cons, List.flatMap_nil, Triangle.sides, start, diagonal,
          upper, lower, finish, List.cons_append, List.nil_append]
        rw [Sym2.eq_swap (a := panel.upperFinish) (b := panel.upperStart),
          Sym2.eq_swap (a := panel.upperFinish) (b := panel.lowerStart),
          Sym2.eq_swap (a := panel.lowerFinish)]
      simp only [List.count_append] at inductionHypothesis
      simp only [List.flatMap_cons, List.flatMap_append, sides, List.map_cons, List.count_append,
        List.count_cons, List.count_nil]
      omega

end Panel

/-! ## Closed walks -/

section Walks

variable {β γ : Type}

/-- The edges of the walk through all of `walk` and back to its start. -/
def closedEdges (walk : List β) : List (Sym2 β) :=
  (walk.zip (walk.rotate 1)).map fun step => s(step.1, step.2)

theorem length_closedEdges (walk : List β) : (closedEdges walk).length = walk.length := by
  rw [closedEdges, List.length_map, List.length_zip, List.length_rotate, Nat.min_self]

theorem mem_of_mem_closedEdges {walk : List β} {edge : Sym2 β} {vertex : β}
    (isEdge : edge ∈ closedEdges walk) (isEnd : vertex ∈ edge) : vertex ∈ walk := by
  obtain ⟨step, isStep, rfl⟩ := List.mem_map.mp isEdge
  obtain ⟨isStart, isFinish⟩ := List.of_mem_zip isStep
  rcases Sym2.mem_iff.mp isEnd with rfl | rfl
  · exact isStart
  · exact List.mem_rotate.mp isFinish

theorem closedEdges_map (rename : β → γ) (walk : List β) :
    closedEdges (walk.map rename) = (closedEdges walk).map (Sym2.map rename) := by
  rw [closedEdges, closedEdges, ← List.map_rotate, List.zip_map, List.map_map, List.map_map]
  rfl

theorem injOn_map_edge {rename : β → γ} {vertices : Set β} (injective : vertices.InjOn rename) :
    {edge : Sym2 β | ∀ vertex ∈ edge, vertex ∈ vertices}.InjOn (Sym2.map rename) := by
  intro left isLeft right isRight agree
  induction left using Sym2.ind with
  | _ first second =>
      induction right using Sym2.ind with
      | _ third fourth =>
          simp only [Set.mem_ofPred_eq, Sym2.mem_iff, forall_eq_or_imp, forall_eq] at isLeft isRight
          rw [Sym2.map_mk, Sym2.map_mk, Sym2.eq_iff] at agree
          rw [Sym2.eq_iff]
          refine agree.imp ?_ ?_
          · rintro ⟨same, same'⟩
            exact ⟨injective isLeft.1 isRight.1 same, injective isLeft.2 isRight.2 same'⟩
          · rintro ⟨same, same'⟩
            exact ⟨injective isLeft.1 isRight.2 same, injective isLeft.2 isRight.1 same'⟩

end Walks

/-! ## Watertight lists -/

/-- The pieces a member lies in are counted by the member itself, as long as no
piece has it twice. -/
theorem countP_mem_eq_count {β γ : Type} [DecidableEq γ] [BEq γ] [LawfulBEq γ] {items : List β}
    {piece : β → List γ} (distinct : ∀ item ∈ items, (piece item).Nodup) (member : γ) :
    items.countP (fun item => member ∈ piece item) = (items.flatMap piece).count member := by
  induction items with
  | nil => rfl
  | cons item items inductionHypothesis =>
      rw [List.forall_mem_cons] at distinct
      have once : (piece item).count member = if member ∈ piece item then 1 else 0 := by
        by_cases isIn : member ∈ piece item
        · rw [if_pos isIn, List.count_eq_one_of_mem distinct.1 isIn]
        · rw [if_neg isIn, List.count_eq_zero_of_not_mem isIn]
      rw [List.flatMap_cons, List.count_append, once, ← inductionHypothesis distinct.2,
        List.countP_cons, Nat.add_comm]
      simp only [decide_eq_true_eq]

section Complexes

variable {β γ : Type} [DecidableEq β] [DecidableEq γ]

/-- The number of triangles an edge belongs to. -/
def edgeCount (triangles : List (Triangle β)) (edge : Sym2 β) : Nat :=
  triangles.countP fun triangle => edge ∈ triangle.sides

/-- Proper triangles on `vertices`, each of which is used, whose edges belong to
two triangles, but for those of one closed walk, which belong to one. -/
structure IsWatertight (triangles : List (Triangle β)) (vertices : Set β) (rim : List β) :
    Prop where
  isProper : ∀ triangle ∈ triangles, triangle.corners.Nodup
  isOn : ∀ triangle ∈ triangles, ∀ corner ∈ triangle.corners, corner ∈ vertices
  isUsed : ∀ vertex ∈ vertices, ∃ triangle ∈ triangles, vertex ∈ triangle.corners
  isCycle : rim.Nodup
  rimOn : ∀ vertex ∈ rim, vertex ∈ vertices
  isSimple : (closedEdges rim).Nodup
  rimEdge : ∀ edge ∈ closedEdges rim, edgeCount triangles edge = 1
  innerEdge : ∀ edge ∈ triangles.flatMap Triangle.sides, edge ∉ closedEdges rim →
    edgeCount triangles edge = 2

theorem edgeCount_eq_count {triangles : List (Triangle β)}
    (isProper : ∀ triangle ∈ triangles, triangle.corners.Nodup) (edge : Sym2 β) :
    edgeCount triangles edge = (triangles.flatMap Triangle.sides).count edge :=
  countP_mem_eq_count (fun triangle isIn => Triangle.nodup_sides (isProper triangle isIn)) edge

/-- It is enough to list the edges: the inner ones twice, those of the rim
once. -/
theorem IsWatertight.of_perm (inner : List (Sym2 β)) {triangles : List (Triangle β)}
    {vertices : Set β} {rim : List β} (isProper : ∀ triangle ∈ triangles, triangle.corners.Nodup)
    (isOn : ∀ triangle ∈ triangles, ∀ corner ∈ triangle.corners, corner ∈ vertices)
    (isEnd : ∀ vertex ∈ vertices, ∃ edge ∈ inner, vertex ∈ edge) (isCycle : rim.Nodup)
    (rimOn : ∀ vertex ∈ rim, vertex ∈ vertices)
    (sides : (triangles.flatMap Triangle.sides).Perm (inner ++ inner ++ closedEdges rim))
    (distinct : (inner ++ closedEdges rim).Nodup) : IsWatertight triangles vertices rim := by
  obtain ⟨innerDistinct, isSimple, apart⟩ := List.nodup_append.mp distinct
  have counted : ∀ edge, edgeCount triangles edge =
      inner.count edge + inner.count edge + (closedEdges rim).count edge := by
    intro edge
    rw [edgeCount_eq_count isProper, sides.count_eq, List.count_append, List.count_append]
  refine ⟨isProper, isOn, ?_, isCycle, rimOn, isSimple, ?_, ?_⟩
  · intro vertex isVertex
    obtain ⟨edge, isInner, ends⟩ := isEnd vertex isVertex
    have isSide : edge ∈ triangles.flatMap Triangle.sides :=
      sides.mem_iff.mpr (List.mem_append_left _ (List.mem_append_left _ isInner))
    obtain ⟨triangle, isTriangle, isSide⟩ := List.mem_flatMap.mp isSide
    exact ⟨triangle, isTriangle, Triangle.mem_corners_of_mem_side isSide ends⟩
  · intro edge isRim
    have notInner : edge ∉ inner := fun isInner => apart edge isInner edge isRim rfl
    rw [counted, List.count_eq_zero_of_not_mem notInner, List.count_eq_one_of_mem isSimple isRim]
  · intro edge isSide notRim
    have isInner : edge ∈ inner := by
      have := sides.mem_iff.mp isSide
      rw [List.mem_append, List.mem_append, or_self] at this
      exact this.resolve_right notRim
    rw [counted, List.count_eq_one_of_mem innerDistinct isInner,
      List.count_eq_zero_of_not_mem notRim]

/-- Vertices that keep apart may be named anew. -/
theorem IsWatertight.image {triangles : List (Triangle β)} {vertices : Set β} {rim : List β}
    (whole : IsWatertight triangles vertices rim) {rename : β → γ}
    (injective : vertices.InjOn rename) :
    IsWatertight (triangles.map (Triangle.map rename)) (rename '' vertices) (rim.map rename) := by
  have sideOn : ∀ triangle ∈ triangles, ∀ edge ∈ triangle.sides, ∀ vertex ∈ edge,
      vertex ∈ vertices := by
    intro triangle isTriangle edge isSide vertex isEnd
    exact whole.isOn triangle isTriangle vertex (Triangle.mem_corners_of_mem_side isSide isEnd)
  have rimEdgeOn : ∀ edge ∈ closedEdges rim, ∀ vertex ∈ edge, vertex ∈ vertices :=
    fun edge isRim vertex isEnd => whole.rimOn vertex (mem_of_mem_closedEdges isRim isEnd)
  -- the new name of an edge is no other edge's, so that nothing is counted twice
  have counted : ∀ edge, (∀ vertex ∈ edge, vertex ∈ vertices) →
      edgeCount (triangles.map (Triangle.map rename)) (edge.map rename) =
        edgeCount triangles edge := by
    intro edge isOn
    rw [edgeCount, edgeCount, List.countP_map]
    apply List.countP_congr
    intro triangle isTriangle
    simp only [Function.comp_apply, Triangle.sides_map, decide_eq_true_eq, List.mem_map]
    constructor
    · rintro ⟨side, isSide, agree⟩
      rwa [← injOn_map_edge injective (sideOn triangle isTriangle side isSide) isOn agree]
    · exact fun isSide => ⟨edge, isSide, rfl⟩
  refine ⟨?_, ?_, ?_, ?_, ?_, ?_, ?_, ?_⟩
  · intro _ isImage
    obtain ⟨triangle, isTriangle, rfl⟩ := List.mem_map.mp isImage
    rw [Triangle.corners_map]
    refine (whole.isProper triangle isTriangle).map_on fun first isFirst second isSecond agree => ?_
    exact injective (whole.isOn triangle isTriangle first isFirst)
      (whole.isOn triangle isTriangle second isSecond) agree
  · intro _ isImage _ isEnd
    obtain ⟨triangle, isTriangle, rfl⟩ := List.mem_map.mp isImage
    rw [Triangle.corners_map] at isEnd
    obtain ⟨corner, isCorner, rfl⟩ := List.mem_map.mp isEnd
    exact Set.mem_image_of_mem rename (whole.isOn triangle isTriangle corner isCorner)
  · rintro _ ⟨vertex, isVertex, rfl⟩
    obtain ⟨triangle, isTriangle, isCorner⟩ := whole.isUsed vertex isVertex
    exact ⟨_, List.mem_map_of_mem isTriangle, List.mem_map_of_mem isCorner⟩
  · exact whole.isCycle.map_on fun first isFirst second isSecond agree =>
      injective (whole.rimOn first isFirst) (whole.rimOn second isSecond) agree
  · intro _ isImage
    obtain ⟨vertex, isRim, rfl⟩ := List.mem_map.mp isImage
    exact Set.mem_image_of_mem rename (whole.rimOn vertex isRim)
  · rw [closedEdges_map]
    exact whole.isSimple.map_on fun first isFirst second isSecond agree =>
      injOn_map_edge injective (rimEdgeOn first isFirst) (rimEdgeOn second isSecond) agree
  · intro _ isImage
    rw [closedEdges_map] at isImage
    obtain ⟨edge, isRim, rfl⟩ := List.mem_map.mp isImage
    rw [counted edge (rimEdgeOn edge isRim), whole.rimEdge edge isRim]
  · intro _ isImage notRim
    obtain ⟨_, isNamed, isEdge⟩ := List.mem_flatMap.mp isImage
    obtain ⟨triangle, isTriangle, rfl⟩ := List.mem_map.mp isNamed
    rw [Triangle.sides_map] at isEdge
    obtain ⟨edge, isSide, rfl⟩ := List.mem_map.mp isEdge
    rw [counted edge (sideOn triangle isTriangle edge isSide)]
    refine whole.innerEdge edge (List.mem_flatMap.mpr ⟨triangle, isTriangle, isSide⟩) ?_
    intro isRim
    rw [closedEdges_map] at notRim
    exact notRim (List.mem_map_of_mem isRim)

end Complexes

end TileAtlas.Mesh
