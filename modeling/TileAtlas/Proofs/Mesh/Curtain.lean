import TileAtlas.Proofs.Format.Terrain
import TileAtlas.Proofs.Mesh.Watertight

/-!
Contract: the curtain of a surface hangs from its border, one vertex below each
border position.

Owns:
- `Mesh.IsBorder` and `Mesh.mem_border_iff`: the walk passes the outermost
  columns and rows and nothing else;
- `Mesh.HasNumberedBorder`: the positions of the curtain, the numbers of its
  vertices and the walk along the border agree;
- `Surface.getElem?_vertices`, the vertex of each spot of a surface;
- `Surface.IsCurtained`, what a surface with its curtain consists of, and
  `TerrainDocument.Lists`, how its document tells that;
- `Surface.curtain_below_border`, for all sizes whose vertices have words.

Does not own: on which edges the triangles meet.
-/

namespace TileAtlas

namespace Mesh

/-! ## The border -/

/-- A position in one of the outermost columns and rows. -/
def IsBorder (size : Nat) (place : Nat × Nat) : Prop :=
  place.1 < size ∧ place.2 < size ∧
    (place.1 = 0 ∨ place.1 = size - 1 ∨ place.2 = 0 ∨ place.2 = size - 1)

/-- One position further along a column or a row. -/
def AreNeighbours (start finish : Nat × Nat) : Prop :=
  ((start.1 : Int) - finish.1).natAbs + ((start.2 : Int) - finish.2).natAbs = 1

/-- The positions of the curtain, the numbers of its vertices and the walk along
the border go together. -/
structure HasNumberedBorder (size : Nat) : Prop where
  nodup_sources : (curtainSources size).Nodup
  length_sources : (curtainSources size).length = 4 * (size - 1)
  mem_sources_iff : ∀ place, place ∈ curtainSources size ↔ IsBorder size place
  /-- The word of a curtain vertex counts on from the grid vertices. -/
  vertexWord_eq : ∀ place, IsBorder size place →
    vertexWord (curtainVertex size place.1 place.2) =
      size * size + (curtainSources size).idxOf place
  /-- Before the walk returns to its start, it has been everywhere once. -/
  isRound : ∃ walk, borderLoop size = walk ++ [(0, 0)] ∧ walk.head? = some (0, 0) ∧
    walk.Nodup ∧ ∀ place, place ∈ walk ↔ IsBorder size place
  isChain : (borderLoop size).IsChain AreNeighbours

theorem isChain_of_steps {β : Type} {Next : β → β → Prop} {walk : List β}
    (joined : ∀ step ∈ steps walk, Next step.1 step.2) : walk.IsChain Next := by
  fun_induction steps walk with
  | case1 => exact .nil
  | case2 => exact .singleton _
  | case3 start finish rest inductionHypothesis =>
      rw [List.forall_mem_cons] at joined
      exact .cons_cons joined.1 (inductionHypothesis joined.2)

section Border

variable {last : Nat}

theorem mem_border_iff (positive : 0 < last) {place : Nat × Nat} :
    place ∈ border last ↔ IsBorder (last + 1) place := by
  obtain ⟨x, y⟩ := place
  simp only [border, List.mem_append, List.mem_map, List.mem_range, IsBorder,
    Nat.add_sub_cancel]
  constructor
  · rintro (⟨index, inside, isPlace⟩ | ⟨index, inside, isPlace⟩ | ⟨index, inside, isPlace⟩ |
      ⟨index, inside, isPlace⟩)
    all_goals
      simp only [north, east, south, west, Prod.mk.injEq] at isPlace
      omega
  · rintro ⟨inX, inY, outermost⟩
    -- a corner belongs to the side that begins there
    by_cases isNorth : y = 0 ∧ x < last
    · exact .inl ⟨x, isNorth.2, Prod.ext rfl isNorth.1.symm⟩
    · by_cases isEast : x = last ∧ y < last
      · exact .inr (.inl ⟨y, isEast.2, Prod.ext isEast.1.symm rfl⟩)
      · by_cases isSouth : y = last ∧ 0 < x
        · refine .inr (.inr (.inl ⟨last - x, by omega, Prod.ext ?_ isSouth.1.symm⟩))
          show last - (last - x) = x
          omega
        · refine .inr (.inr (.inr ⟨last - y, by omega, Prod.ext ?_ ?_⟩))
          · show 0 = x
            omega
          · show last - (last - y) = y
            omega

theorem areNeighbours_of_mem_steps (positive : 0 < last) {step : (Nat × Nat) × (Nat × Nat)}
    (isStep : step ∈ borderSteps last) : AreNeighbours step.1 step.2 := by
  obtain ⟨index, inside, rfl | rfl | rfl | rfl⟩ := exists_index_of_mem_steps positive isStep
  all_goals
    simp only [AreNeighbours, north, east, south, west]
    omega

theorem nodup_curtainSources (positive : 0 < last) : (curtainSources (last + 1)).Nodup :=
  (border_perm positive).nodup_iff.mp (nodup_border positive)

theorem mem_curtainSources_iff (positive : 0 < last) {place : Nat × Nat} :
    place ∈ curtainSources (last + 1) ↔ IsBorder (last + 1) place :=
  (border_perm positive).mem_iff.symm.trans (mem_border_iff positive)

/-- A curtain vertex is numbered by where its position stands in the list. -/
theorem curtainVertex_eq (positive : 0 < last) {place : Nat × Nat}
    (isBorder : IsBorder (last + 1) place) :
    curtainVertex (last + 1) place.1 place.2 =
      (last + 1) * (last + 1) + (curtainSources (last + 1)).idxOf place := by
  have isSource := (mem_curtainSources_iff positive).mpr isBorder
  have inSources := List.idxOf_lt_length_of_mem isSource
  have inRange : (curtainSources (last + 1)).idxOf place < 4 * last :=
    Surface.length_curtainSources positive ▸ inSources
  have numbers := congrArg (·[(curtainSources (last + 1)).idxOf place]?)
    (map_curtainNumber positive)
  simpa [inSources, inRange, List.getElem_idxOf, curtainNumber] using numbers

theorem hasNumberedBorder (positive : 0 < last) (fits : vertexCount (last + 1) ≤ 2 ^ 32) :
    HasNumberedBorder (last + 1) where
  nodup_sources := nodup_curtainSources positive
  length_sources := Surface.length_curtainSources positive
  mem_sources_iff _ := mem_curtainSources_iff positive
  vertexWord_eq := by
    intro place isBorder
    have isSource := (mem_curtainSources_iff positive).mpr isBorder
    have inRange : (curtainSources (last + 1)).idxOf place < 4 * last :=
      Surface.length_curtainSources positive ▸ List.idxOf_lt_length_of_mem isSource
    have count : vertexCount (last + 1) = (last + 1) * (last + 1) + 4 * last := rfl
    rw [curtainVertex_eq positive isBorder, vertexWord, Nat.mod_eq_of_lt (by omega)]
  isRound := ⟨border last, borderLoop_eq (last + 1), head?_border positive,
    nodup_border positive, fun _ => mem_border_iff positive⟩
  isChain := by
    rw [borderLoop_eq]
    exact isChain_of_steps fun step isStep => areNeighbours_of_mem_steps positive isStep

/-! ## Triangles -/

theorem length_gridTriangles (last : Nat) :
    (gridTriangles (last + 1)).length = 3 * (2 * last ^ 2) := by
  have cell (y x : Nat) : (cellTriangles (last + 1) x y).length = 6 := rfl
  have row (y : Nat) : ((List.range last).flatMap fun x => cellTriangles (last + 1) x y).length =
      last * 6 := by
    rw [length_flatMap_uniform _ _ fun x _ => cell y x, List.length_range]
  rw [gridTriangles, Nat.add_sub_cancel, length_flatMap_uniform _ _ fun y _ => row y,
    List.length_range]
  ring

theorem length_curtainTriangles (positive : 0 < last) :
    (curtainTriangles (last + 1)).length = 3 * (8 * last) := by
  have count : (borderSteps last).length = 4 * last := by
    rw [← length_border, ← map_fst_borderSteps positive, List.length_map]
  have wall (step : (Nat × Nat) × (Nat × Nat)) :
      (stepTriangles (last + 1) step.1 step.2).length = 6 := rfl
  rw [curtainTriangles, walkTriangles_eq, borderLoop_eq]
  change ((borderSteps last).flatMap _).length = _
  rw [length_flatMap_uniform _ _ fun step _ => wall step, count]
  ring

end Border

end Mesh

/-! ## Built surfaces -/

namespace Surface

/-- The height of a spot: curtain vertices lie below the surface. -/
def heightOf (heights : Array Float32) (size : Nat) : Mesh.Spot → Float
  | .surface place => heightAt heights size place
  | .curtain place => heightAt heights size place - curtainDepth

/-- A surface with its curtain: as many vertices and triangles as its size says,
first those of the grid and then those of the walls along the border.  A wall
joins each border position to the curtain vertex below it, and both to those of
the next position.  That curtain vertex has the place in the texture of the
vertex above it, and the same longitude and latitude at a height that is less by
the depth of the curtain. -/
structure IsCurtained (surface : Surface) (heights : Array Float32) (size : Nat)
    (extent : Extent Float) : Prop where
  gridSize : surface.gridSize = size
  vertexCount : surface.vertices.size = size * size + 4 * (size - 1)
  triangleCount : surface.triangleCount = 2 * (size - 1) ^ 2 + 8 * (size - 1)
  curtainIndex : surface.curtainIndex = size * size
  heights_eq : surface.heights = heights
  triangles_eq : surface.triangles.toList =
    Mesh.gridTriangles size ++ (Mesh.steps (Mesh.borderLoop size)).flatMap fun step =>
      Mesh.stepTriangles size step.1 step.2
  hangs : ∀ place, Mesh.IsBorder size place → ∃ upper lower : SurfaceVertex,
    surface.vertices[Mesh.gridVertex size place.1 place.2]? = some upper ∧
    surface.vertices[Mesh.curtainVertex size place.1 place.2]? = some lower ∧
    (lower.u, lower.v) = (upper.u, upper.v) ∧
    upper.position = (Geodesy.toGeocentric ⟨(degreesAt extent size place).1,
      (degreesAt extent size place).2, heightAt heights size place⟩).relativeTo surface.offset ∧
    lower.position = (Geodesy.toGeocentric ⟨(degreesAt extent size place).1,
      (degreesAt extent size place).2, heightAt heights size place - curtainDepth⟩).relativeTo
        surface.offset

section Built

variable {heights : Array Float32} {size last : Nat} {extent : Extent Float} {surface : Surface}

/-- The place in the texture does not depend on the point. -/
theorem texture_vertexAt (size : Nat) (offset point : Point3) (source : Nat × Nat) :
    ((vertexAt size offset point source).u, (vertexAt size offset point source).v) =
      textureAt size source := rfl

theorem getElem?_points (positive : 0 < last) {spot : Mesh.Spot} (isOn : spot.IsOn last) :
    (points extent (last + 1) heights true)[Mesh.vertexOf (last + 1) spot]? =
      some (pointAt extent (last + 1) spot.place (heightOf heights (last + 1) spot)) := by
  have source := getElem?_sources positive isOn
  have grid := length_gridPositions (last + 1)
  have below := (Mesh.image_spots positive).subset ⟨spot, isOn, rfl⟩
  rw [sources, if_pos rfl] at source
  rw [points, if_pos rfl]
  cases spot with
  | surface place =>
      have inGrid : Mesh.gridVertex (last + 1) place.1 place.2 <
          (Mesh.gridPositions (last + 1)).length := grid ▸ Mesh.gridVertex_lt isOn.1 isOn.2
      rw [Mesh.vertexOf, List.getElem?_append_left inGrid] at source
      rw [Mesh.vertexOf, List.getElem?_append_left (by simpa [gridPoints] using inGrid),
        gridPoints, List.getElem?_map, source]
      rfl
  | curtain place =>
      have behind : (Mesh.gridPositions (last + 1)).length ≤
          Mesh.curtainNumber (last + 1) place :=
        grid ▸ ((Mesh.mem_map_curtainNumber positive _).mp (List.mem_map_of_mem isOn)).1
      rw [Mesh.vertexOf, List.getElem?_append_right behind] at source
      rw [Mesh.vertexOf, List.getElem?_append_right (by simpa [gridPoints] using behind),
        curtainPoints, List.getElem?_map, gridPoints, List.length_map, source]
      rfl

/-- The vertex of each spot of a surface. -/
theorem getElem?_vertices (isOver : surface.IsOver heights (last + 1) extent true)
    (positive : 0 < last) (spot : Mesh.Spot) (isOn : spot.IsOn last) :
    surface.vertices[Mesh.vertexOf (last + 1) spot]? =
      some (vertexAt (last + 1) surface.offset
        (pointAt extent (last + 1) spot.place (heightOf heights (last + 1) spot)) spot.place) := by
  have entry : ((points extent (last + 1) heights true).zip (sources (last + 1) true))[
      Mesh.vertexOf (last + 1) spot]? =
        some (pointAt extent (last + 1) spot.place (heightOf heights (last + 1) spot),
          spot.place) :=
    List.getElem?_zip_eq_some.mpr ⟨getElem?_points positive isOn, getElem?_sources positive isOn⟩
  rw [← Array.getElem?_toList, isOver.vertices, List.getElem?_map, entry, Option.map_some]

theorem IsOver.triangles_eq (isOver : surface.IsOver heights (last + 1) extent true)
    (positive : 0 < last) (fits : Mesh.vertexCount (last + 1) ≤ 2 ^ 32) :
    surface.triangles.toList =
      Mesh.gridTriangles (last + 1) ++ Mesh.curtainTriangles (last + 1) := by
  rw [Mesh.triangles_eq, ← Mesh.indices_eq positive fits]
  exact isOver.triangles

theorem IsOver.triangleCount_eq (isOver : surface.IsOver heights (last + 1) extent true)
    (positive : 0 < last) (fits : Mesh.vertexCount (last + 1) ≤ 2 ^ 32) :
    surface.triangleCount = 2 * last ^ 2 + 8 * last := by
  rw [Surface.triangleCount, ← Array.length_toList, isOver.triangles_eq positive fits,
    List.length_append, Mesh.length_gridTriangles, Mesh.length_curtainTriangles positive]
  omega

theorem IsOver.hangs (isOver : surface.IsOver heights (last + 1) extent true)
    (positive : 0 < last) {place : Nat × Nat} (isBorder : Mesh.IsBorder (last + 1) place) :
    ∃ upper lower : SurfaceVertex,
      surface.vertices[Mesh.gridVertex (last + 1) place.1 place.2]? = some upper ∧
      surface.vertices[Mesh.curtainVertex (last + 1) place.1 place.2]? = some lower ∧
      (lower.u, lower.v) = (upper.u, upper.v) ∧
      upper.position = (Geodesy.toGeocentric ⟨(degreesAt extent (last + 1) place).1,
        (degreesAt extent (last + 1) place).2, heightAt heights (last + 1) place⟩).relativeTo
          surface.offset ∧
      lower.position = (Geodesy.toGeocentric ⟨(degreesAt extent (last + 1) place).1,
        (degreesAt extent (last + 1) place).2,
        heightAt heights (last + 1) place - curtainDepth⟩).relativeTo surface.offset := by
  simp only [← pointAt_eq]
  have onWalk := (Mesh.mem_border_iff positive).mpr isBorder
  have upper : surface.vertices[Mesh.gridVertex (last + 1) place.1 place.2]? =
      some (vertexAt (last + 1) surface.offset
        (pointAt extent (last + 1) place (heightAt heights (last + 1) place)) place) :=
    getElem?_vertices isOver positive (.surface place) (Mesh.mem_border_le onWalk)
  have lower : surface.vertices[Mesh.curtainVertex (last + 1) place.1 place.2]? =
      some (vertexAt (last + 1) surface.offset
        (pointAt extent (last + 1) place (heightAt heights (last + 1) place - curtainDepth))
        place) :=
    getElem?_vertices isOver positive (.curtain place) onWalk
  exact ⟨_, _, upper, lower, (texture_vertexAt _ _ _ _).trans (texture_vertexAt _ _ _ _).symm,
    rfl, rfl⟩

theorem IsOver.isCurtained (isOver : surface.IsOver heights (last + 1) extent true)
    (positive : 0 < last) (fits : Mesh.vertexCount (last + 1) ≤ 2 ^ 32) :
    surface.IsCurtained heights (last + 1) extent where
  gridSize := isOver.gridSize
  vertexCount := isOver.size_vertices (Nat.succ_le_succ positive)
  triangleCount := isOver.triangleCount_eq positive fits
  curtainIndex := isOver.curtainIndex
  heights_eq := isOver.heights
  triangles_eq := by
    rw [isOver.triangles_eq positive fits, Mesh.curtainTriangles, Mesh.walkTriangles_eq]
  hangs _ := isOver.hangs positive

end Built

end Surface

/-! ## Documents -/

namespace TerrainDocument

/-- What a document says of a surface: all of its parts, with five numbers for
each vertex. -/
structure Describes (document : TerrainDocument) (surface : Surface) : Prop where
  gridSize : document.gridSize = surface.gridSize
  curtainIndex : document.curtainIndex = surface.curtainIndex
  heightMap : document.heightMap = surface.heights.toList
  indices : document.indices = surface.triangles.toList
  length_vertices : document.vertices.length = 5 * surface.vertices.size
  vertices : ∀ index (inVertices : index < surface.vertices.size),
    (document.vertices.drop (index * 5)).take 5 = vertexNumbers surface.vertices[index]

theorem length_vertexNumbers (vertex : SurfaceVertex) : (vertexNumbers vertex).length = 5 := rfl

theorem describes_ofSurface (surface : Surface) : (ofSurface surface).Describes surface where
  gridSize := rfl
  curtainIndex := rfl
  heightMap := rfl
  indices := rfl
  length_vertices := by
    rw [ofSurface, length_flatMap_uniform _ _ fun vertex _ => length_vertexNumbers vertex,
      Array.length_toList, Nat.mul_comm]
  vertices := by
    intro index inVertices
    exact slice_flatMap_uniform vertexNumbers surface.vertices.toList
      (fun vertex _ => length_vertexNumbers vertex) inVertices

/-- The document of a tile is that of the surface over its heights. -/
theorem ofTile_eq_map {tile : RasterTile Float} (isElevation : tile.mode = .elevation)
    (isSquare : tile.width = tile.height) :
    ofTile tile =
      (Surface.ofHeights tile.heights tile.width (placeOf tile) true).map ofSurface := by
  unfold ofTile
  rw [if_neg (by simp [RasterTile.isElevation, isElevation]), if_neg (by simpa using isSquare)]
  rfl

end TerrainDocument

namespace Surface

/-- The border of every grid is numbered once and walked once.  Every field of
all its heights has a surface with its curtain, which its document describes, and
a tile with those heights in that place has this document. -/
theorem curtain_below_border (size : Nat) (large : 2 ≤ size)
    (fits : size * size + 4 * (size - 1) ≤ 2 ^ 32) :
    Mesh.HasNumberedBorder size ∧
      ∀ (heights : Array Float32) (extent : Extent Float), heights.size = size * size →
        ∃ surface, ofHeights heights size extent true = .ok surface ∧
          surface.IsCurtained heights size extent ∧
          (TerrainDocument.ofSurface surface).Describes surface ∧
          ∀ tile : RasterTile Float, tile.mode = .elevation → tile.width = size →
            tile.height = size → tile.heights = heights → TerrainDocument.placeOf tile = extent →
              TerrainDocument.ofTile tile = .ok (TerrainDocument.ofSurface surface) := by
  obtain ⟨last, positive, rfl⟩ := Mesh.exists_last large
  refine ⟨Mesh.hasNumberedBorder positive fits, ?_⟩
  intro heights extent complete
  have counted : (last + 1) * (last + 1) ≤ word64Max := by
    rw [word64Max]
    omega
  have built : ofHeights heights (last + 1) extent true =
      .ok (ofField heights (last + 1) extent true) :=
    ofHeights_eq_ok_iff.mpr ⟨⟨large, complete, counted⟩, rfl⟩
  refine ⟨_, built, (isOver_ofField heights (last + 1) extent true).isCurtained positive fits,
    TerrainDocument.describes_ofSurface _, ?_⟩
  rintro tile isElevation width height rfl rfl
  rw [TerrainDocument.ofTile_eq_map isElevation (width.trans height.symm), width, built]
  rfl

/-- Nine heights, of which one is missing and one has no bound. -/
def nineHeights : Array Float32 :=
  #[Float32.ofBits 0x3F800000, Float32.ofBits 0x7FC00000, Float32.ofBits 0xC4FA0000,
    Float32.ofBits 0x7F800000, Float32.ofBits 0x40000000, Float32.ofBits 0x40400000,
    Float32.ofBits 0xBF800000, Float32.ofBits 0x00000000, Float32.ofBits 0x43FA0000]

/-- Each side of the grid has a border position between two corners, and only the
position in the middle is no border position. -/
theorem curtain_below_border_nineHeights :
    2 ≤ 3 ∧ 3 * 3 + 4 * (3 - 1) ≤ 2 ^ 32 ∧ Mesh.HasNumberedBorder 3 ∧
      nineHeights.size = 3 * 3 ∧
        ∃ surface, ofHeights nineHeights 3 TerrainDocument.wholeSquare true = .ok surface ∧
          surface.IsCurtained nineHeights 3 TerrainDocument.wholeSquare := by
  obtain ⟨numbered, builds⟩ := curtain_below_border 3 (by decide) (by decide)
  obtain ⟨surface, built, isCurtained, -⟩ :=
    builds nineHeights TerrainDocument.wholeSquare rfl
  exact ⟨by decide, by decide, numbered, rfl, surface, built, isCurtained⟩

end Surface

end TileAtlas
