import TileAtlas.Mesh.Surface
import TileAtlas.Proofs.Machine
import TileAtlas.Proofs.Number.Finite
import TileAtlas.Proofs.Sequence

/-!
Contract: what the surface over a field of heights consists of.

Owns:
- `Surface.IsOver`, each part of a surface in terms of its field, and
  `Surface.isOver_ofField`;
- `Surface.ofHeights_eq_ok_iff`: heights have a surface if a square field has so
  many and that many can be counted;
- `Surface.IsOver.of_missing`: over a field without any height no vertex has a
  position, and the bounds are those of no point at all.
-/

namespace TileAtlas

namespace Surface

/-- Longitude and latitude of a grid position, in degrees. -/
def degreesAt (place : Extent Float) (size : Nat) (position : Nat × Nat) : Float × Float :=
  Geodesy.ofMercator (Mesh.latticePoint place size position.1 position.2).1
    (Mesh.latticePoint place size position.1 position.2).2

theorem pointAt_eq (place : Extent Float) (size : Nat) (position : Nat × Nat) (height : Float) :
    pointAt place size position height = Geodesy.toGeocentric
      ⟨(degreesAt place size position).1, (degreesAt place size position).2, height⟩ := rfl

/-- The earth-centred points over the grid. -/
def gridPoints (place : Extent Float) (size : Nat) (heights : Array Float32) : List Point3 :=
  (Mesh.gridPositions size).map fun position =>
    pointAt place size position (heightAt heights size position)

/-- The grid points and, under them, those of the curtain. -/
def points (place : Extent Float) (size : Nat) (heights : Array Float32) (curtain : Bool) :
    List Point3 :=
  gridPoints place size heights ++ if curtain then curtainPoints place size heights else []

/-- The grid positions of all points. -/
def sources (size : Nat) (curtain : Bool) : List (Nat × Nat) :=
  Mesh.gridPositions size ++ if curtain then Mesh.curtainSources size else []

/-- The vertex at a point over a grid position. -/
def vertexAt (size : Nat) (offset point : Point3) (source : Nat × Nat) : SurfaceVertex :=
  ⟨point.relativeTo offset, (textureAt size source).1, (textureAt size source).2⟩

/-- What a surface consists of. -/
structure IsOver (surface : Surface) (heights : Array Float32) (size : Nat) (place : Extent Float)
    (curtain : Bool) : Prop where
  gridSize : surface.gridSize = size
  vertices : surface.vertices.toList =
    ((points place size heights curtain).zip (sources size curtain)).map fun entry =>
      vertexAt size surface.offset entry.1 entry.2
  triangles : surface.triangles.toList =
    (Mesh.gridTriangles size ++ if curtain then Mesh.curtainTriangles size else []).map
      Mesh.vertexWord
  offset : surface.offset = (points place size heights curtain).headD ⟨0.0, 0.0, 0.0⟩
  bounds : surface.bounds = (gridPoints place size heights).foldl stretchBox emptyBox
  curtainIndex : surface.curtainIndex = size * size
  heights : surface.heights = heights

variable {heights : Array Float32} {size : Nat} {place : Extent Float} {curtain : Bool}
  {surface : Surface}

/-- A field is square, has all of its heights, and can be counted. -/
structure IsField (heights : Array Float32) (size : Nat) : Prop where
  isLarge : 2 ≤ size
  isComplete : heights.size = size * size
  isCounted : size * size ≤ word64Max

theorem ofHeights_eq_ok_iff : ofHeights heights size place curtain = .ok surface ↔
    IsField heights size ∧ surface = ofField heights size place curtain := by
  unfold ofHeights
  constructor
  · intro built
    split at built
    · cases built
    next isLarge =>
      obtain ⟨expected, counted, built⟩ := bind_eq_ok built
      obtain ⟨rfl, isCounted⟩ := Count.times_eq_ok_iff.mp counted
      split at built
      next isComplete => exact ⟨⟨Nat.not_lt.mp isLarge, isComplete, isCounted⟩,
        (Except.ok.inj built).symm⟩
      next => cases built
  · rintro ⟨isField, rfl⟩
    rw [if_neg (Nat.not_lt.mpr isField.isLarge), Count.times_of_le isField.isCounted]
    exact if_pos isField.isComplete

theorem isOver_ofField (heights : Array Float32) (size : Nat) (place : Extent Float)
    (curtain : Bool) : (ofField heights size place curtain).IsOver heights size place curtain := by
  have grid : ((Mesh.gridPositions size).zip ((Mesh.gridPositions size).map
      (heightAt heights size))).map (fun entry => pointAt place size entry.1 entry.2) =
      gridPoints place size heights := by
    rw [← List.map_prod_left_eq_zip, List.map_map]
    rfl
  unfold ofField
  simp only [grid]
  exact ⟨rfl, rfl, rfl, rfl, rfl, rfl, rfl⟩

theorem le_of_mem_triangles (isOver : surface.IsOver heights size place curtain) :
    ∀ index ∈ surface.triangles, index ≤ word32Max := by
  intro index isIn
  rw [Array.mem_def, isOver.triangles] at isIn
  obtain ⟨vertex, -, rfl⟩ := List.mem_map.mp isIn
  exact Nat.le_of_lt_succ (Nat.mod_lt vertex (by decide))

end Surface

/-! ## Missing heights -/

namespace Point3

/-- The numbers of a position in order. -/
def coordinates (point : Point3) : List Float := [point.x, point.y, point.z]

/-- All coordinates of a position are missing. -/
structure IsMissing (point : Point3) : Prop where
  x : Binary.IsMissing point.x
  y : Binary.IsMissing point.y
  z : Binary.IsMissing point.z

theorem IsMissing.relativeTo {point : Point3} (missing : point.IsMissing) (origin : Point3) :
    (point.relativeTo origin).IsMissing :=
  ⟨missing.x.sub_right _, missing.y.sub_right _, missing.z.sub_right _⟩

theorem IsMissing.not_isFinite {point : Point3} (missing : point.IsMissing) :
    ∀ number ∈ point.coordinates, ¬(Binary.ofFloat number).IsFinite := by
  simp only [coordinates, List.forall_mem_cons]
  exact ⟨missing.x.not_isFinite, missing.y.not_isFinite, missing.z.not_isFinite, by simp⟩

end Point3

namespace Surface

variable {heights : Array Float32} {size : Nat} {place : Extent Float} {curtain : Bool}
  {surface : Surface}

theorem pointAt_isMissing (position : Nat × Nat) {height : Float}
    (missing : Binary.IsMissing height) : (pointAt place size position height).IsMissing :=
  ⟨((missing.add_left _).mul_right _).mul_right _, ((missing.add_left _).mul_right _).mul_right _,
    (missing.add_left _).mul_right _⟩

theorem stretchBox_emptyBox {point : Point3} (missing : point.IsMissing) :
    stretchBox emptyBox point = emptyBox := by
  have above : Scalar.isNumber emptyBox.least.x := by decide +kernel
  have below : Scalar.isNumber emptyBox.greatest.x := by decide +kernel
  have least : emptyBox.least.smaller point = emptyBox.least :=
    congr (congr (congrArg Point3.mk (missing.x.smaller_eq above)) (missing.y.smaller_eq above))
      (missing.z.smaller_eq above)
  have greatest : emptyBox.greatest.larger point = emptyBox.greatest :=
    congr (congr (congrArg Point3.mk (missing.x.larger_eq below)) (missing.y.larger_eq below))
      (missing.z.larger_eq below)
  rw [stretchBox, least, greatest]

theorem not_isFinite_emptyBox : ∀ number ∈ emptyBox.least.coordinates ++
    emptyBox.greatest.coordinates, ¬(Binary.ofFloat number).IsFinite := by
  have least : Binary.ofFloat emptyBox.least.x = .infinite false := by decide +kernel
  have greatest : Binary.ofFloat emptyBox.greatest.x = .infinite true := by decide +kernel
  -- the three coordinates of a corner are the same
  have coordinates : emptyBox.least.coordinates ++ emptyBox.greatest.coordinates =
      List.replicate 3 emptyBox.least.x ++ List.replicate 3 emptyBox.greatest.x := rfl
  intro number isIn
  rw [coordinates, List.mem_append] at isIn
  rcases isIn with isLeast | isGreatest
  · rw [List.eq_of_mem_replicate isLeast, least]
    exact id
  · rw [List.eq_of_mem_replicate isGreatest, greatest]
    exact id

theorem foldl_stretchBox {points : List Point3} (missing : ∀ point ∈ points, point.IsMissing) :
    points.foldl stretchBox emptyBox = emptyBox := by
  induction points with
  | nil => rfl
  | cons point points inductionHypothesis =>
      rw [List.forall_mem_cons] at missing
      rw [List.foldl_cons, stretchBox_emptyBox missing.1, inductionHypothesis missing.2]

theorem points_isMissing (missing : ∀ position ∈ sources size true,
      Binary.IsMissing (heightAt heights size position)) :
    ∀ point ∈ points place size heights true, point.IsMissing := by
  rw [sources, if_pos rfl, List.forall_mem_append] at missing
  rw [points, if_pos rfl, List.forall_mem_append]
  constructor
  · intro point isIn
    obtain ⟨position, isPosition, rfl⟩ := List.mem_map.mp isIn
    exact pointAt_isMissing position (missing.1 position isPosition)
  · intro point isIn
    obtain ⟨position, isPosition, rfl⟩ := List.mem_map.mp isIn
    exact pointAt_isMissing position ((missing.2 position isPosition).sub_right _)

theorem IsOver.of_missing (isOver : surface.IsOver heights size place true) (large : 2 ≤ size)
    (missing : ∀ position ∈ sources size true, Binary.IsMissing (heightAt heights size position)) :
    (∀ vertex ∈ surface.vertices.toList, ∃ point : Point3, ∃ source ∈ sources size true,
      point.IsMissing ∧ vertex = vertexAt size surface.offset point source) ∧
    surface.offset.IsMissing ∧ surface.bounds = emptyBox := by
  have pointsMissing : ∀ point ∈ points place size heights true, point.IsMissing :=
    points_isMissing missing
  refine ⟨?_, ?_, ?_⟩
  · intro vertex isIn
    rw [isOver.vertices] at isIn
    obtain ⟨⟨point, source⟩, isZipped, rfl⟩ := List.mem_map.mp isIn
    obtain ⟨isPoint, isSource⟩ := List.of_mem_zip isZipped
    exact ⟨point, source, isSource, pointsMissing point isPoint, rfl⟩
  · have notEmpty : points place size heights true ≠ [] := by
      have positions : Mesh.gridPositions size ≠ [] :=
        List.ne_nil_of_mem (a := (0, 0)) (by simp [Mesh.gridPositions]; omega)
      simpa [points, gridPoints] using fun none => absurd none positions
    obtain ⟨first, rest, isFirst⟩ := List.exists_cons_of_ne_nil notEmpty
    rw [isOver.offset, isFirst]
    exact pointsMissing first (by simp [isFirst])
  · rw [isOver.bounds]
    exact foldl_stretchBox fun point isIn => pointsMissing point (List.mem_append_left _ isIn)

end Surface

end TileAtlas
