import TileAtlas.Proofs.Format.Document
import TileAtlas.Proofs.Tile

/-!
Contract: which tiles of heights come back from their terrain documents.

Owns:
- `TerrainDocument.ofTile_spec`, what the document of a tile holds, and
  `TerrainDocument.exists_ofTile`, which tiles have one;
- `TerrainDocument.decode_encode`: a tile comes back if all numbers of its
  document are finite, and otherwise its document is refused;
- `TerrainDocument.decode_refuses_of_height`: one height that is not finite is
  enough for that, and a tile with such a height.

Does not own: when the positions of the surface are finite.  They go through
trigonometric functions of which nothing is known here.  The one tile that is
shown to come back lies where only their values at zero matter, and these are
assumed (`KnowsZero`).
-/

namespace TileAtlas

namespace TerrainDocument

/-- What a document holds of its tile. -/
structure IsDocumentOf (tile : RasterTile Float) (document : TerrainDocument) : Prop where
  isElevation : tile.mode = .elevation
  isSquare : tile.width = tile.height
  isField : Surface.IsField tile.heights tile.width
  gridSize : document.gridSize = tile.width
  curtainIndex : document.curtainIndex = tile.width * tile.width
  heightMap : document.heightMap = tile.heights.toList
  indices : ∀ index ∈ document.indices, index ≤ word32Max

/-- Where the surface of a tile is put. -/
def placeOf (tile : RasterTile Float) : Extent Float := tile.subExtent.getD wholeSquare

theorem ofTile_eq_ok {tile : RasterTile Float} {document : TerrainDocument}
    (accepted : ofTile tile = .ok document) :
    tile.mode = .elevation ∧ tile.width = tile.height ∧
      Surface.IsField tile.heights tile.width ∧
      document = ofSurface (.ofField tile.heights tile.width (placeOf tile) true) := by
  unfold ofTile at accepted
  split at accepted
  · contradiction
  · split at accepted
    · contradiction
    · rename_i isElevation isSquare
      refine ⟨by simpa [RasterTile.isElevation] using isElevation, by simpa using isSquare, ?_⟩
      generalize isBuilt : Surface.ofHeights _ _ _ true = built at accepted
      cases built with
      | error fault => contradiction
      | ok surface =>
          cases accepted
          obtain ⟨isField, rfl⟩ := Surface.ofHeights_eq_ok_iff.mp isBuilt
          exact ⟨isField, rfl⟩

theorem ofTile_spec {tile : RasterTile Float} {document : TerrainDocument}
    (accepted : ofTile tile = .ok document) : IsDocumentOf tile document := by
  obtain ⟨isElevation, isSquare, isField, rfl⟩ := ofTile_eq_ok accepted
  have isOver := Surface.isOver_ofField tile.heights tile.width (placeOf tile) true
  refine ⟨isElevation, isSquare, isField, isOver.gridSize, isOver.curtainIndex,
    congrArg Array.toList isOver.heights, ?_⟩
  intro index isIn
  exact Surface.le_of_mem_triangles isOver index (Array.mem_toList_iff.mp isIn)

theorem ofTile_eq_ofField {tile : RasterTile Float} (isElevation : tile.mode = .elevation)
    (isSquare : tile.width = tile.height) (isField : Surface.IsField tile.heights tile.width) :
    ofTile tile = .ok (ofSurface (.ofField tile.heights tile.width (placeOf tile) true)) := by
  have built : Surface.ofHeights tile.heights tile.width (tile.subExtent.getD wholeSquare) true =
      .ok (.ofField tile.heights tile.width (placeOf tile) true) :=
    Surface.ofHeights_eq_ok_iff.mpr ⟨isField, rfl⟩
  unfold ofTile
  rw [if_neg (by simp [RasterTile.isElevation, isElevation]), if_neg (by simpa using isSquare),
    built]
  rfl

theorem exists_ofTile {tile : RasterTile Float} (isElevation : tile.mode = .elevation)
    (isSquare : tile.width = tile.height) (isLarge : 2 ≤ tile.width)
    (complete : tile.pixels.size = tile.width * tile.width)
    (counted : tile.width * tile.width ≤ word64Max) : ∃ document, ofTile tile = .ok document := by
  have size : tile.heights.size = tile.width * tile.width := by
    rw [RasterTile.heights, Array.size_map, complete]
  exact ⟨_, ofTile_eq_ofField isElevation isSquare ⟨isLarge, size, counted⟩⟩

/-! ## Reading what was written -/

variable {tile : RasterTile Float} {document : TerrainDocument}

theorem IsDocumentOf.countsFit (isDocument : IsDocumentOf tile document) : document.CountsFit := by
  have area := isDocument.isField.isCounted
  refine ⟨?_, by rwa [isDocument.curtainIndex], isDocument.indices⟩
  rw [isDocument.gridSize]
  exact (Nat.le_mul_self tile.width).trans area

theorem decode_octets (document : TerrainDocument) :
    (decode (octets document.toJson.compact) : Except Error (RasterTile Float)) =
      match ofJson? document.toJson with
      | some read => RasterTile.ofHeights read.gridSize read.gridSize read.heightMap.toArray none
      | none => .error (.format .malformedDocument) := by
  rw [decode, JsonValue.ofBytes?_compact document.isWellFormed_toJson]
  rfl

theorem encode_eq_ok (accepted : ofTile tile = .ok document) :
    encode tile = .ok (octets document.toJson.compact) := by
  rw [encode, accepted]
  rfl

theorem decode_of_not_isFinite (fits : document.CountsFit) (infinite : ¬document.IsFinite) :
    (decode (octets document.toJson.compact) : Except Error (RasterTile Float)) =
      .error (.format .malformedDocument) := by
  have unread : ofJson? document.toJson = none := by
    rw [← Option.not_isSome_iff_eq_none, isSome_ofJson?_toJson_iff fits]
    exact fun readable => infinite readable.isFinite
  rw [decode_octets, unread]

/-! ## Heights that are not finite -/

theorem not_isFinite_of_height (isDocument : IsDocumentOf tile document) {height : Float32}
    (isHeight : height ∈ tile.heights) (infinite : ¬(Binary.ofFloat32 height).IsFinite) :
    ¬document.IsFinite := by
  intro finite
  refine infinite (finite.heights height ?_)
  rw [isDocument.heightMap]
  exact Array.mem_toList_iff.mpr isHeight

/-- One height that is missing or infinite is enough for a document to be
written and then refused. -/
theorem decode_refuses_of_height (accepted : ofTile tile = .ok document) {height : Float32}
    (isHeight : height ∈ tile.heights) (infinite : ¬(Binary.ofFloat32 height).IsFinite) :
    ∃ bytes, encode tile = .ok bytes ∧
      (decode bytes : Except Error (RasterTile Float)) = .error (.format .malformedDocument) := by
  have isDocument := ofTile_spec accepted
  exact ⟨_, encode_eq_ok accepted, decode_of_not_isFinite isDocument.countsFit
    (not_isFinite_of_height isDocument isHeight infinite)⟩

/-- The pixel of a height that is no number. -/
def missingPixel : Rgba := ⟨0x00, 0x00, 0xC0, 0x7F⟩

theorem ofFloat32_missingPixel : Binary.ofFloat32 missingPixel.height = .nan := by decide

theorem not_isFinite_missingPixel : ¬(Binary.ofFloat32 missingPixel.height).IsFinite := by
  rw [ofFloat32_missingPixel]
  exact id

/-- Two rows of the heights one, missing, two and three. -/
def missingCorner : RasterTile Float where
  width := 2
  height := 2
  mode := .elevation
  pixels := #[⟨0x00, 0x00, 0x80, 0x3F⟩, missingPixel, ⟨0x00, 0x00, 0x00, 0x40⟩,
    ⟨0x00, 0x00, 0x40, 0x40⟩]
  subExtent := none

theorem not_decode_missingCorner :
    missingCorner.pixels.size = missingCorner.width * missingCorner.height ∧
    ∃ bytes, encode missingCorner = .ok bytes ∧
      (decode bytes : Except Error (RasterTile Float)) = .error (.format .malformedDocument) := by
  obtain ⟨document, accepted⟩ : ∃ document, ofTile missingCorner = .ok document :=
    exists_ofTile rfl rfl (by decide) rfl (by decide)
  have isHeight : missingPixel.height ∈ missingCorner.heights :=
    Array.mem_map_of_mem (by simp [missingCorner])
  exact ⟨rfl, decode_refuses_of_height accepted isHeight not_isFinite_missingPixel⟩

/-! ## Finite documents -/

/-- A tile has the size and the heights of another one, and no place. -/
structure IsCopy (tile copy : RasterTile Float) : Prop where
  isElevation : copy.mode = .elevation
  width : copy.width = tile.width
  height : copy.height = tile.height
  heights : copy.heights = tile.heights
  noPlace : copy.subExtent = none

theorem ofHeights_isCopy (isDocument : IsDocumentOf tile document) :
    ∃ copy : RasterTile Float,
      RasterTile.ofHeights tile.width tile.width tile.heights none = .ok copy ∧
        IsCopy tile copy := by
  obtain ⟨-, complete, counted⟩ := isDocument.isField
  refine ⟨⟨tile.width, tile.width, .elevation, tile.heights.map Rgba.ofHeight, none⟩,
    RasterTile.ofHeights_eq_ok_iff.mpr ⟨complete, counted, rfl⟩, rfl, rfl,
    isDocument.isSquare, ?_, rfl⟩
  -- packing keeps the word of a height, whatever bytes it came from
  show (tile.heights.map Rgba.ofHeight).map Rgba.height = tile.heights
  rw [Array.map_map]
  convert Array.map_id tile.heights using 2
  exact funext Rgba.height_ofHeight

/-- A tile comes back from its document, all but its place, if every number of
the document is finite; otherwise the document is refused.  It is assumed that
finite numbers are read and that finite heights are read as they were. -/
theorem decode_encode (accepted : ofTile tile = .ok document)
    (numbersRead : ∀ number ∈ document.numbers, (Binary.ofFloat number).IsFinite →
      (float? (.ofFloat number)).isSome)
    (heightsRead : ∀ height ∈ document.heightMap, (Binary.ofFloat32 height).IsFinite →
      float32? (.ofFloat32 height) = some height) :
    ∃ bytes, encode tile = .ok bytes ∧
      (document.IsFinite → ∃ copy : RasterTile Float, decode bytes = .ok copy ∧ IsCopy tile copy) ∧
      (¬document.IsFinite → (decode bytes : Except Error (RasterTile Float)) =
        .error (.format .malformedDocument)) := by
  have isDocument := ofTile_spec accepted
  have fits := isDocument.countsFit
  refine ⟨_, encode_eq_ok accepted, fun finite => ?_, decode_of_not_isFinite fits⟩
  -- the positions need only be read; their values play no part in the tile
  have heights : ∀ height ∈ document.heightMap, float32? (.ofFloat32 height) = some height :=
    fun height isIn => heightsRead height isIn (finite.heights height isIn)
  have readable : document.IsReadable := by
    refine ⟨fun number isIn => numbersRead number isIn (finite.numbers number isIn), ?_⟩
    intro height isIn
    rw [heights height isIn]
    rfl
  obtain ⟨read, isRead⟩ := Option.isSome_iff_exists.mp
    ((isSome_ofJson?_toJson_iff fits).mpr readable)
  obtain ⟨gridSize, heightMap⟩ := eq_of_ofJson?_toJson fits heights isRead
  obtain ⟨copy, isOk, isCopy⟩ := ofHeights_isCopy isDocument
  refine ⟨copy, ?_, isCopy⟩
  rw [decode_octets, isRead]
  simpa [gridSize, heightMap, isDocument.gridSize, isDocument.heightMap] using isOk

/-- Two rows of two missing heights. -/
def missingSquare : RasterTile Float where
  width := 2
  height := 2
  mode := .elevation
  pixels := Array.replicate 4 missingPixel
  subExtent := none

theorem heightAt_missingSquare : ∀ position ∈ Surface.sources 2 true,
    Binary.IsMissing (Surface.heightAt missingSquare.heights 2 position) := by
  have missing : Binary.IsMissing (Binary.widen missingPixel.height) := by
    rw [Binary.widen, ofFloat32_missingPixel]
    exact Eq.refl Float.Model.UnpackedFloat.notANumber
  have inside : ∀ position ∈ Surface.sources 2 true,
      Mesh.gridVertex 2 position.1 position.2 < 4 := by
    decide
  intro position isIn
  have isPixel : missingSquare.heights.getD (Mesh.gridVertex 2 position.1 position.2)
      (Float32.ofBits 0) = missingPixel.height := by
    simp [RasterTile.heights, missingSquare, inside position isIn]
  rw [Surface.heightAt, isPixel]
  exact missing

/-- Only the places in the texture are numbers in the document. -/
theorem float?_missingSquare (accepted : ofTile missingSquare = .ok document) :
    ∀ number ∈ document.numbers, (Binary.ofFloat number).IsFinite →
      (float? (.ofFloat number)).isSome := by
  obtain ⟨-, -, -, rfl⟩ := ofTile_eq_ok accepted
  have isOver := Surface.isOver_ofField missingSquare.heights missingSquare.width
    (placeOf missingSquare) true
  generalize Surface.ofField _ _ _ true = surface at isOver ⊢
  obtain ⟨vertices, offset, bounds⟩ := isOver.of_missing (by decide) heightAt_missingSquare
  have texture : ∀ source ∈ Surface.sources 2 true,
      (float? (.ofFloat (Surface.textureAt 2 source).1)).isSome ∧
        (float? (.ofFloat (Surface.textureAt 2 source).2)).isSome := by
    decide +kernel
  intro number isIn finite
  simp only [numbers, ofSurface, bounds, List.append_assoc, List.mem_append,
    List.mem_flatMap] at isIn
  rcases isIn with ⟨vertex, isVertex, isNumber⟩ | isOffset | isBound
  · obtain ⟨point, source, isSource, missing, rfl⟩ := vertices vertex isVertex
    have apart := (missing.relativeTo surface.offset).not_isFinite
    obtain ⟨isU, isV⟩ := texture source isSource
    simp only [vertexNumbers, List.mem_cons, List.not_mem_nil, or_false] at isNumber
    rcases isNumber with rfl | rfl | rfl | rfl | rfl
    · exact absurd finite (apart _ (by simp [Point3.coordinates, Surface.vertexAt]))
    · exact absurd finite (apart _ (by simp [Point3.coordinates, Surface.vertexAt]))
    · exact absurd finite (apart _ (by simp [Point3.coordinates, Surface.vertexAt]))
    · exact isU
    · exact isV
  · exact absurd finite (offset.not_isFinite number isOffset)
  · exact absurd finite (Surface.not_isFinite_emptyBox number (List.mem_append.mpr isBound))

/-- The functions of angles have their values at zero. -/
structure KnowsZero : Prop where
  sin : (0.0 : Float).sin = 0.0
  cos : (0.0 : Float).cos = 1.0
  sinh : (0.0 : Float).sinh = 0.0
  atan : (0.0 : Float).atan = 0.0

/-- The place where the equator meets the meridian of longitude zero. -/
def zeroPlace : Extent Float := ⟨0.0, 0.0, 0.0, 0.0⟩

/-- The rows 1, 2 and -3.5, 4 over one place. -/
def heightsAtZero : RasterTile Float where
  width := 2
  height := 2
  mode := .elevation
  pixels := #[⟨0x00, 0x00, 0x80, 0x3F⟩, ⟨0x00, 0x00, 0x00, 0x40⟩, ⟨0x00, 0x00, 0x60, 0xC0⟩,
    ⟨0x00, 0x00, 0x80, 0x40⟩]
  subExtent := some zeroPlace

/-- The earth-centred point at a height over longitude and latitude zero. -/
def pointOverZero (height : Float) : Point3 :=
  let normal := Geodesy.semiMajor / (1.0 - Geodesy.eccentricitySquared * 0.0 * 0.0).sqrt
  ⟨(normal + height) * 1.0 * 1.0, (normal + height) * 1.0 * 0.0,
    (normal * (1.0 - Geodesy.eccentricitySquared) + height) * 0.0⟩

theorem degreesAt_zeroPlace (known : KnowsZero) : ∀ position ∈ Surface.sources 2 true,
    Surface.degreesAt zeroPlace 2 position = (0.0, 0.0) := by
  have lattice : ∀ position ∈ Surface.sources 2 true,
      Mesh.latticePoint zeroPlace 2 position.1 position.2 = (0.0, 0.0) := by
    decide +kernel
  have longitude : (0.0 : Float) * 180.0 = 0.0 := by decide +kernel
  have scaled : (0.0 : Float) * Angle.pi = 0.0 := by decide +kernel
  have latitude : Angle.toDegrees 0.0 = 0.0 := by decide +kernel
  intro position isIn
  rw [Surface.degreesAt, lattice position isIn]
  simp only [Geodesy.ofMercator, longitude, scaled, known.sinh, known.atan, latitude]

theorem pointAt_zeroPlace (known : KnowsZero) (height : Float) {position : Nat × Nat}
    (isIn : position ∈ Surface.sources 2 true) :
    Surface.pointAt zeroPlace 2 position height = pointOverZero height := by
  have radians : Angle.toRadians 0.0 = 0.0 := by decide +kernel
  rw [Surface.pointAt_eq, degreesAt_zeroPlace known position isIn]
  simp only [Geodesy.toGeocentric, radians, known.sin, known.cos, pointOverZero]

/-- The numbers of a document by the points of its surface. -/
def numbersOver (size : Nat) (gridPoints curtainPoints : List Point3) : List Float :=
  let points := gridPoints ++ curtainPoints
  let offset := points.headD ⟨0.0, 0.0, 0.0⟩
  let bounds := gridPoints.foldl Surface.stretchBox Surface.emptyBox
  ((points.zip (Surface.sources size true)).map fun entry =>
      Surface.vertexAt size offset entry.1 entry.2).flatMap vertexNumbers ++
    offset.coordinates ++ bounds.least.coordinates ++ bounds.greatest.coordinates

theorem numbers_ofSurface {surface : Surface} {heights : Array Float32} {size : Nat}
    {place : Extent Float} (isOver : surface.IsOver heights size place true) :
    (ofSurface surface).numbers = numbersOver size (Surface.gridPoints place size heights)
      (Surface.curtainPoints place size heights) := by
  simp only [numbers, ofSurface, isOver.vertices, isOver.offset, isOver.bounds]
  rfl

theorem numbers_heightsAtZero (known : KnowsZero) (accepted : ofTile heightsAtZero = .ok document) :
    ∀ number ∈ document.numbers,
      (Binary.ofFloat number).IsFinite ∧ (float? (.ofFloat number)).isSome := by
  obtain ⟨-, -, -, rfl⟩ := ofTile_eq_ok accepted
  rw [numbers_ofSurface (Surface.isOver_ofField _ _ _ true)]
  have grid : Surface.gridPoints zeroPlace 2 heightsAtZero.heights =
      (Mesh.gridPositions 2).map fun position =>
        pointOverZero (Surface.heightAt heightsAtZero.heights 2 position) :=
    List.map_congr_left fun _ isIn => pointAt_zeroPlace known _ (List.mem_append_left _ isIn)
  have curtain : Surface.curtainPoints zeroPlace 2 heightsAtZero.heights =
      (Mesh.curtainSources 2).map fun position =>
        pointOverZero (Surface.heightAt heightsAtZero.heights 2 position - curtainDepth) :=
    List.map_congr_left fun _ isIn => pointAt_zeroPlace known _ (List.mem_append_right _ isIn)
  show ∀ number ∈ numbersOver 2 (Surface.gridPoints zeroPlace 2 heightsAtZero.heights)
    (Surface.curtainPoints zeroPlace 2 heightsAtZero.heights), _
  rw [grid, curtain]
  -- no function of angles is left, so the numbers can be computed
  decide +kernel

theorem heights_heightsAtZero : ∀ height ∈ heightsAtZero.heights.toList,
    (Binary.ofFloat32 height).IsFinite ∧ float32? (.ofFloat32 height) = some height := by
  decide +kernel

/-- A square of missing heights is refused, and one of heights comes back. -/
theorem decode_encode_squares :
    (∃ document bytes, ofTile missingSquare = .ok document ∧ ¬document.IsFinite ∧
      encode missingSquare = .ok bytes ∧
      (decode bytes : Except Error (RasterTile Float)) = .error (.format .malformedDocument)) ∧
    (KnowsZero → ∃ document bytes copy, ofTile heightsAtZero = .ok document ∧ document.IsFinite ∧
      encode heightsAtZero = .ok bytes ∧ decode bytes = .ok copy ∧ IsCopy heightsAtZero copy) := by
  refine ⟨?_, fun known => ?_⟩
  · obtain ⟨document, accepted⟩ : ∃ document, ofTile missingSquare = .ok document :=
      exists_ofTile rfl rfl (by decide) rfl (by decide)
    have isDocument := ofTile_spec accepted
    have infinite : ¬document.IsFinite :=
      not_isFinite_of_height isDocument (Array.mem_map_of_mem (by simp [missingSquare]))
        not_isFinite_missingPixel
    have heightsRead : ∀ height ∈ document.heightMap, (Binary.ofFloat32 height).IsFinite →
        float32? (.ofFloat32 height) = some height := by
      intro height isIn finite
      rw [isDocument.heightMap] at isIn
      obtain rfl : height = missingPixel.height := by
        simpa [RasterTile.heights, missingSquare] using isIn
      exact absurd finite not_isFinite_missingPixel
    obtain ⟨bytes, written, -, refused⟩ :=
      decode_encode accepted (float?_missingSquare accepted) heightsRead
    exact ⟨document, bytes, accepted, infinite, written, refused infinite⟩
  · obtain ⟨document, accepted⟩ : ∃ document, ofTile heightsAtZero = .ok document :=
      exists_ofTile rfl rfl (by decide) rfl (by decide)
    have numbers := numbers_heightsAtZero known accepted
    have heights : ∀ height ∈ document.heightMap,
        (Binary.ofFloat32 height).IsFinite ∧ float32? (.ofFloat32 height) = some height := by
      rw [(ofTile_spec accepted).heightMap]
      exact heights_heightsAtZero
    have finite : document.IsFinite :=
      ⟨fun number isIn => (numbers number isIn).1, fun height isIn => (heights height isIn).1⟩
    obtain ⟨bytes, written, comesBack, -⟩ := decode_encode accepted
      (fun number isIn _ => (numbers number isIn).2) (fun height isIn _ => (heights height isIn).2)
    obtain ⟨copy, read, isCopy⟩ := comesBack finite
    exact ⟨document, bytes, copy, accepted, finite, written, read, isCopy⟩

end TerrainDocument

end TileAtlas
