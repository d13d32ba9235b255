import TileAtlas.Format
import TileAtlas.Proofs.Format.Raw
import TileAtlas.Proofs.Format.Terrain

/-!
Contract: which tiles come out of rows of bytes that nobody vouches for.

Owns:
- `RasterTile.IsWellFormed`, a square tile of heights that has all of its bytes;
- `TileFormat.Declares`, the size that a row of bytes says it has;
- `TileFormat.Overflows`, a document whose size is too large for its square;
- `TileFormat.decodesSoundly_iff`: only such a document is not refused as it
  should be, and even from it no tile comes out.

The plain container names its size by 32 bits, and refuses one whose bytes cannot
be counted.  A document names it by 64 bits and does not look.
-/

namespace TileAtlas

/-- A square tile of heights without a place, with four bytes for each pixel. -/
structure RasterTile.IsWellFormed {α : Type} (tile : RasterTile α) : Prop where
  isElevation : tile.mode = .elevation
  isSquare : tile.width = tile.height
  noPlace : tile.subExtent = none
  isComplete : tile.bytes.length = 4 * tile.width * tile.height

namespace TerrainDocument

def read? (bytes : List UInt8) : Option TerrainDocument := (JsonValue.ofBytes? bytes).bind ofJson?

variable {α : Type} {bytes : List UInt8} {document : TerrainDocument}

/-- The tile of as many heights as there are. -/
def tileOf (document : TerrainDocument) : RasterTile α :=
  ⟨document.gridSize, document.gridSize, .elevation,
    document.heightMap.toArray.map Rgba.ofHeight, none⟩

theorem length_bytes_tileOf (document : TerrainDocument) :
    (tileOf document : RasterTile α).bytes.length = 4 * document.heightMap.length := by
  rw [RasterTile.length_bytes]
  simp [tileOf]

theorem decode_of_read (isRead : read? bytes = some document) :
    (decode bytes : Except Error (RasterTile α)) =
      RasterTile.ofHeights document.gridSize document.gridSize document.heightMap.toArray none := by
  unfold read? at isRead
  rw [decode, isRead]

theorem exists_read_of_decode {tile : RasterTile α} (accepted : decode bytes = .ok tile) :
    ∃ document, read? bytes = some document ∧
      document.heightMap.length = document.gridSize * document.gridSize ∧
        tile = tileOf document := by
  cases isRead : read? bytes with
  | none =>
      unfold read? at isRead
      rw [decode, isRead] at accepted
      cases accepted
  | some document =>
      rw [decode_of_read isRead] at accepted
      obtain ⟨complete, -, isTile⟩ := RasterTile.ofHeights_eq_ok_iff.mp accepted
      exact ⟨document, rfl, complete, isTile⟩

end TerrainDocument

namespace TileFormat

/-- The size that a row of bytes says its tile has, whatever else it holds. -/
def Declares (format : TileFormat) (bytes : ByteArray) (size : Nat) : Prop :=
  match format with
  | .raw => ∃ payload, size < 2 ^ 32 ∧ Bytes.toList bytes = RawContainer.container size payload
  | .json => ∃ document, TerrainDocument.read? (Bytes.toList bytes) = some document ∧
      document.gridSize = size

/-- A document of a size whose square is beyond 64 bits. -/
def Overflows (format : TileFormat) (bytes : ByteArray) : Prop :=
  format = .json ∧ ∃ document, TerrainDocument.read? (Bytes.toList bytes) = some document ∧
    word64Max < document.gridSize * document.gridSize

/-- What is accepted is well formed, and a size whose square cannot be counted is
refused. -/
structure DecodesSoundly (α : Type) (format : TileFormat) (bytes : ByteArray) : Prop where
  isWellFormed : ∀ tile : RasterTile α, format.decode bytes = .ok tile → tile.IsWellFormed
  refuses : ∀ size, format.Declares bytes size → word64Max < size * size →
    ∃ fault, (format.decode bytes : Except Error (RasterTile α)) = .error (.format fault)

section Soundness

variable {α : Type} {bytes : ByteArray}

theorem square_le_of_lt {size : Nat} (small : size < 2 ^ 32) : size * size ≤ word64Max := by
  have square : size * size ≤ (2 ^ 32 - 1) * (2 ^ 32 - 1) :=
    Nat.mul_le_mul (Nat.le_pred_of_lt small) (Nat.le_pred_of_lt small)
  exact square.trans (by decide)

theorem isWellFormed_of_decode (format : TileFormat) {tile : RasterTile α}
    (accepted : format.decode bytes = .ok tile) : tile.IsWellFormed := by
  cases format with
  | raw =>
      obtain ⟨size, payload, -, -, complete, -, rfl⟩ := RawContainer.decode_eq_ok_iff.mp accepted
      have whole : payload.length = 4 * (size * size) := by rw [complete, Nat.mul_assoc]
      refine ⟨rfl, rfl, rfl, ?_⟩
      show (RawContainer.tileOf size payload : RasterTile α).bytes.length = 4 * size * size
      rw [RasterTile.bytes, RawContainer.tileOf, List.toList_toArray,
        (RawContainer.pixelsOf_spec whole).2, complete]
  | json =>
      obtain ⟨document, -, complete, rfl⟩ := TerrainDocument.exists_read_of_decode accepted
      refine ⟨rfl, rfl, rfl, ?_⟩
      rw [TerrainDocument.length_bytes_tileOf, complete, ← Nat.mul_assoc]
      rfl

theorem decode_of_overflows {format : TileFormat} (overflows : format.Overflows bytes) :
    (format.decode bytes : Except Error (RasterTile α)) = .error .overflow := by
  obtain ⟨rfl, document, isRead, large⟩ := overflows
  exact (TerrainDocument.decode_of_read isRead).trans (RasterTile.ofHeights_of_lt large _ _)

theorem decodesSoundly_of_not_overflows (format : TileFormat)
    (countable : ¬format.Overflows bytes) : DecodesSoundly α format bytes where
  isWellFormed _ := isWellFormed_of_decode format
  refuses := by
    intro size declares large
    cases format with
    | raw =>
        obtain ⟨payload, small, -⟩ := declares
        exact absurd (square_le_of_lt small) (Nat.not_le_of_lt large)
    | json =>
        obtain ⟨document, isRead, rfl⟩ := declares
        exact absurd ⟨rfl, document, isRead, large⟩ countable

/-- A document that overflows is not answered with a fault of its format. -/
theorem not_decodesSoundly_of_overflows {format : TileFormat}
    (overflows : format.Overflows bytes) : ¬DecodesSoundly α format bytes := by
  intro sound
  have stops := decode_of_overflows (α := α) overflows
  obtain ⟨rfl, document, isRead, large⟩ := overflows
  obtain ⟨fault, refused⟩ := sound.refuses document.gridSize ⟨document, isRead, rfl⟩ large
  cases stops.symm.trans refused

end Soundness

/-- In both formats what is accepted is well formed.  A size whose square cannot
be counted is refused, but for documents, on which the program stops. -/
theorem decodesSoundly_iff (α : Type) (format : TileFormat) (bytes : ByteArray) :
    (∀ tile : RasterTile α, format.decode bytes = .ok tile → tile.IsWellFormed) ∧
      (DecodesSoundly α format bytes ↔ ¬format.Overflows bytes) ∧
      (format.Overflows bytes →
        (format.decode bytes : Except Error (RasterTile α)) = .error .overflow) :=
  ⟨fun _ => isWellFormed_of_decode format,
    ⟨fun sound overflows => not_decodesSoundly_of_overflows overflows sound,
      decodesSoundly_of_not_overflows format⟩,
    decode_of_overflows⟩

/-- A document of 2^32 columns and rows that holds no height. -/
def emptyWideDocument : List UInt8 :=
  ("\x7b\"Version\":\"1.1\",\"Triangulation\":\"grid\",\"GridSize\":4294967296," ++
    "\"VertexSemantic\":\"pt\",\"Vertices\":[],\"Indices\":[],\"IndexSemantic\":\"TRIANGLES\"," ++
    "\"Offset\":[0,0,0],\"BoundingBox\":[[0,0,0],[0,0,0]],\"CurtainIndex\":0," ++
    "\"HeightMap\":[]\x7d").toUTF8.data.toList

theorem overflows_emptyWideDocument : TileFormat.json.Overflows ⟨emptyWideDocument.toArray⟩ := by
  have size : (TerrainDocument.read? emptyWideDocument).map TerrainDocument.gridSize =
      some (2 ^ 32) := by
    decide +kernel
  obtain ⟨document, isRead, gridSize⟩ := Option.map_eq_some_iff.mp size
  refine ⟨rfl, document, isRead, ?_⟩
  rw [gridSize]
  decide

theorem not_forall_decodesSoundly :
    ¬∀ (format : TileFormat) (bytes : ByteArray), DecodesSoundly Float format bytes :=
  fun sound => not_decodesSoundly_of_overflows overflows_emptyWideDocument (sound .json _)

end TileFormat

end TileAtlas
