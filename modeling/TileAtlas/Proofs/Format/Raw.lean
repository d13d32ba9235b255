import TileAtlas.Format.Raw
import TileAtlas.Proofs.Tile

/-!
Contract: the laws of the plain container of heights.

Owns:
- rows of bytes as numbers and as pixels, both ways;
- `RawContainer.decode_eq_ok_iff`: what is accepted, and as which tile;
- `RawContainer.IsFaithful`, the laws between writing and reading, and
  `RawContainer.isFaithful`.

## Long rows

The size in a header is squared with a check, so a container whose rows would
be longer than a 64-bit word can count is refused.  No such row exists where
lengths are words; the laws below say where that is used.
-/

namespace TileAtlas

namespace Bytes

theorem little_lt (row : List UInt8) : little row < 256 ^ row.length := by
  induction row with
  | nil => exact Nat.one_pos
  | cons byte row inductionHypothesis =>
      have small : byte.toNat < 256 := byte.toNat_lt
      rw [little, List.length_cons, Nat.pow_succ]
      omega

theorem ofLittle_little (row : List UInt8) : ofLittle row.length (little row) = row := by
  induction row with
  | nil => rfl
  | cons byte row inductionHypothesis =>
      have small : byte.toNat < 256 := byte.toNat_lt
      have quotient : little (byte :: row) / 256 = little row := by
        rw [little]
        omega
      have least : UInt8.ofNat (little (byte :: row)) = byte := by
        apply UInt8.toNat_inj.mp
        rw [UInt8.toNat_ofNat', little]
        omega
      rw [List.length_cons, ofLittle, quotient, least, inductionHypothesis]

end Bytes

namespace RawContainer

variable {α : Type}

/-! ## Pixels -/

theorem pixelsOf_flatMap (pixels : List Rgba) : pixelsOf (pixels.flatMap Rgba.toList) = pixels := by
  induction pixels with
  | nil => rfl
  | cons pixel pixels inductionHypothesis =>
      rw [List.flatMap_cons]
      exact congrArg (pixel :: ·) inductionHypothesis

/-- A row of whole pixels is cut into as many as it holds, and nothing is lost. -/
theorem pixelsOf_spec {count : Nat} {row : List UInt8} (whole : row.length = 4 * count) :
    (pixelsOf row).length = count ∧ (pixelsOf row).flatMap Rgba.toList = row := by
  induction count generalizing row with
  | zero =>
      obtain rfl := List.length_eq_zero_iff.mp whole
      exact ⟨rfl, rfl⟩
  | succ count inductionHypothesis =>
      match row, whole with
      | red :: green :: blue :: alpha :: rest, whole =>
          have restWhole : rest.length = 4 * count := by
            simp only [List.length_cons] at whole
            omega
          obtain ⟨length, bytes⟩ := inductionHypothesis restWhole
          rw [pixelsOf, List.length_cons, List.flatMap_cons, length, bytes]
          exact ⟨rfl, rfl⟩

/-! ## Reading -/

/-- The tile of a size and a row of bytes. -/
def tileOf (size : Nat) (payload : List UInt8) : RasterTile α :=
  ⟨size, size, .elevation, (pixelsOf payload).toArray, none⟩

/-- A container of a size, whatever its row of bytes holds. -/
def container (size : Nat) (payload : List UInt8) : List UInt8 :=
  mark ++ Bytes.ofLittle 4 size ++ payload

theorem decode_container {size : Nat} (small : size < 2 ^ 32) (payload : List UInt8) :
    (decode (container size payload) : Except Error (RasterTile α)) =
      if word64Max < size * size * 4 then .error (.format (.payloadOverflow size))
      else if payload.length ≠ size * size * 4 then
        .error (.format (.payloadLength payload.length size (size * size * 4)))
      else .ok (tileOf size payload) := by
  have header : Bytes.little (Bytes.ofLittle 4 size) = size := by
    rw [Bytes.little_ofLittle]
    exact Nat.mod_eq_of_lt small
  show decodeBody (Bytes.ofLittle 4 size ++ payload) = _
  simp only [Bytes.ofLittle] at header
  simp only [Bytes.ofLittle, List.cons_append, List.nil_append, decodeBody, header]
  rfl

theorem exists_container_of_decode {bytes : List UInt8} {tile : RasterTile α}
    (accepted : decode bytes = .ok tile) :
    ∃ size payload, size < 2 ^ 32 ∧ bytes = container size payload := by
  unfold decode at accepted
  split at accepted
  · next marked =>
      generalize isBody : bytes.drop 4 = body at accepted
      match body, accepted with
      | b0 :: b1 :: b2 :: b3 :: payload, _ =>
          have length : [b0, b1, b2, b3].length = 4 := rfl
          have small := Bytes.little_lt [b0, b1, b2, b3]
          have header := Bytes.ofLittle_little [b0, b1, b2, b3]
          rw [length] at small header
          refine ⟨Bytes.little [b0, b1, b2, b3], payload, small.trans_eq (by norm_num), ?_⟩
          rw [container, header, ← marked, List.append_assoc]
          exact (isBody ▸ List.take_append_drop 4 bytes).symm
  · contradiction

/-- A row of bytes is accepted if it is a container of as many bytes as its
size says, and if they can be counted. -/
theorem decode_eq_ok_iff {bytes : List UInt8} {tile : RasterTile α} :
    decode bytes = .ok tile ↔
      ∃ size payload, size < 2 ^ 32 ∧ bytes = container size payload ∧
        payload.length = 4 * size * size ∧ 4 * size * size ≤ word64Max ∧
        tile = tileOf size payload := by
  constructor
  · intro accepted
    obtain ⟨size, payload, small, rfl⟩ := exists_container_of_decode accepted
    rw [decode_container small] at accepted
    split at accepted
    · contradiction
    · split at accepted
      · contradiction
      · next counted complete =>
          have area : size * size * 4 = 4 * size * size := by rw [Nat.mul_comm, Nat.mul_assoc]
          rw [area] at counted complete
          exact ⟨size, payload, small, rfl, by omega, by omega, (Except.ok.inj accepted).symm⟩
  · rintro ⟨size, payload, small, rfl, complete, counted, rfl⟩
    have area : size * size * 4 = 4 * size * size := by rw [Nat.mul_comm, Nat.mul_assoc]
    rw [decode_container small, area, if_neg (by omega), if_neg (by omega)]

/-! ## Writing -/

/-- A square tile of heights that has all its pixels, no more bytes than a
64-bit length can count. -/
structure IsStorable (tile : RasterTile α) : Prop where
  isElevation : tile.mode = .elevation
  isSquare : tile.width = tile.height
  isComplete : tile.pixels.size = tile.width * tile.width
  isCounted : 4 * tile.pixels.size ≤ word64Max

theorem IsStorable.small {tile : RasterTile α} (storable : IsStorable tile) :
    tile.width < 2 ^ 32 := by
  have counted := storable.isCounted
  rw [storable.isComplete] at counted
  by_contra large
  have least : 2 ^ 32 * 2 ^ 32 ≤ tile.width * tile.width :=
    Nat.mul_le_mul (not_lt.mp large) (not_lt.mp large)
  unfold word64Max at counted
  omega

theorem encode_eq_ok {tile : RasterTile α} (storable : IsStorable tile) :
    encode tile = .ok (container tile.width tile.bytes) := by
  have small := storable.small
  have fits : ¬word32Max < tile.width := by
    unfold word32Max
    omega
  unfold encode
  rw [if_neg (by simp [RasterTile.isElevation, storable.isElevation]),
    if_neg (by simpa using storable.isSquare), if_neg fits]
  rfl

/-- All of a tile comes back but its place. -/
theorem decode_encode_of_isStorable {tile : RasterTile α} (storable : IsStorable tile) :
    ∃ bytes, encode tile = .ok bytes ∧ decode bytes = .ok tile.unplaced := by
  refine ⟨_, encode_eq_ok storable, decode_eq_ok_iff.mpr ?_⟩
  have length : tile.bytes.length = 4 * tile.width * tile.width := by
    rw [RasterTile.length_bytes, storable.isComplete, Nat.mul_assoc]
  refine ⟨tile.width, tile.bytes, storable.small, rfl, length, ?_, ?_⟩
  · rw [← length, RasterTile.length_bytes]
    exact storable.isCounted
  · have pixels : (pixelsOf tile.bytes).toArray = tile.pixels := by
      rw [RasterTile.bytes, pixelsOf_flatMap, Array.toArray_toList]
    rw [tileOf, pixels, RasterTile.unplaced, ← storable.isSquare, storable.isElevation]

theorem isStorable_tileOf {size : Nat} {payload : List UInt8}
    (complete : payload.length = 4 * size * size) (counted : 4 * size * size ≤ word64Max) :
    IsStorable (tileOf size payload : RasterTile α) where
  isElevation := rfl
  isSquare := rfl
  isComplete := by
    rw [Nat.mul_assoc] at complete
    exact (pixelsOf_spec complete).1
  isCounted := by
    rw [Nat.mul_assoc] at complete counted
    show 4 * (pixelsOf payload).length ≤ word64Max
    rwa [(pixelsOf_spec complete).1]

/-- What was accepted is written as it was. -/
theorem encode_of_decode {bytes : List UInt8} {tile : RasterTile α}
    (accepted : decode bytes = .ok tile) : encode tile = .ok bytes := by
  obtain ⟨size, payload, small, rfl, complete, counted, rfl⟩ := decode_eq_ok_iff.mp accepted
  have same : (tileOf size payload : RasterTile α).bytes = payload := by
    rw [Nat.mul_assoc] at complete
    exact (pixelsOf_spec complete).2
  rw [encode_eq_ok (isStorable_tileOf complete counted), same]
  rfl

/-! ## Tiles that are made of heights -/

/-- A tile of a size holds the given heights bit for bit, and has no place. -/
structure Holds (tile : RasterTile α) (size : Nat) (heights : Array Float32) : Prop where
  isElevation : tile.mode = .elevation
  width : tile.width = size
  height : tile.height = size
  noPlace : tile.subExtent = none
  heights : ∀ x < size, ∀ y < size, ∃ height, heights[y * size + x]? = some height ∧
    tile.elevation? x y = some height ∧
    (tile.pixel? x y).map Rgba.word = some height.toBits.toNat

theorem holds_of_pixels {tile : RasterTile α} {size : Nat} {heights : Array Float32}
    (storable : IsStorable tile) (width : tile.width = size) (complete : heights.size = size * size)
    (pixels : tile.pixels = heights.map Rgba.ofHeight) : Holds tile.unplaced size heights := by
  have height : tile.height = size := storable.isSquare.symm.trans width
  refine ⟨storable.isElevation, width, height, rfl, ?_⟩
  intro x inX y inY
  have inRange : y * size + x < heights.size := complete ▸ rowMajor_lt inX inY
  have isHeight : heights[y * size + x]? = some heights[y * size + x] :=
    Array.getElem?_eq_getElem inRange
  have isPixel : tile.unplaced.pixel? x y = some (Rgba.ofHeight heights[y * size + x]) := by
    calc tile.unplaced.pixel? x y
        = tile.pixels[y * tile.width + x]? := RasterTile.pixel?_of_lt (width ▸ inX) (height ▸ inY)
      _ = some (Rgba.ofHeight heights[y * size + x]) := by
          rw [width, pixels, Array.getElem?_map, isHeight, Option.map_some]
  refine ⟨heights[y * size + x], isHeight, ?_, ?_⟩
  · rw [RasterTile.elevation?, isPixel, Option.map_some, Rgba.height_ofHeight]
  · rw [isPixel, Option.map_some, Rgba.ofHeight, Rgba.word_ofWord (UInt32.toNat_lt _)]

theorem ofHeights_eq_ok {size : Nat} {heights : Array Float32} (place : Option (Extent α))
    (complete : heights.size = size * size) (counted : 4 * heights.size ≤ word64Max) :
    ∃ tile : RasterTile α, RasterTile.ofHeights size size heights place = .ok tile ∧
      IsStorable tile ∧ tile.width = size ∧ tile.pixels = heights.map Rgba.ofHeight := by
  have fits : size * size ≤ word64Max := by omega
  refine ⟨⟨size, size, .elevation, heights.map Rgba.ofHeight, place⟩,
    RasterTile.ofHeights_eq_ok_iff.mpr ⟨complete, fits, rfl⟩, ?_, rfl, rfl⟩
  exact ⟨rfl, rfl, by simpa using complete, by simpa using counted⟩

/-- A tile of one repeated pixel. -/
def solid (size : Nat) (pixel : Rgba) : RasterTile α :=
  ⟨size, size, .elevation, Array.replicate (size * size) pixel, none⟩

theorem isStorable_solid {size : Nat} {pixel : Rgba} (counted : 4 * (size * size) ≤ word64Max) :
    IsStorable (solid size pixel : RasterTile α) :=
  ⟨rfl, rfl, Array.size_replicate, by simpa [solid] using counted⟩

theorem empty_eq_ok {size : Nat} {pixel : Rgba} (counted : 4 * (size * size) ≤ word64Max) :
    empty size pixel = encode (solid size pixel : RasterTile α) := by
  rw [empty, RasterTile.flat_of_le (by rwa [Nat.mul_comm])]
  exact (encode_eq_ok (isStorable_solid counted)).trans
    (encode_eq_ok (isStorable_solid counted)).symm

theorem pixel?_solid {size : Nat} (pixel : Rgba) {x y : Nat} (inX : x < size) (inY : y < size) :
    (solid size pixel : RasterTile α).pixel? x y = some pixel :=
  (RasterTile.pixel?_of_lt inX inY).trans
    (Array.getElem?_replicate.trans (if_pos (rowMajor_lt inX inY)))

/-! ## Laws -/

/-- The laws of the container.  A row of bytes has a 64-bit length. -/
structure IsFaithful (α : Type) : Prop where
  keepsHeights : ∀ (size : Nat) (heights : Array Float32) (place : Option (Extent α)),
    heights.size = size * size → 4 * heights.size ≤ word64Max →
      ∃ (tile : RasterTile α) (bytes : List UInt8) (copy : RasterTile α),
        RasterTile.ofHeights size size heights place = .ok tile ∧ encode tile = .ok bytes ∧
        decode bytes = .ok copy ∧ copy.bytes = tile.bytes ∧ Holds copy size heights
  /-- Whatever the pixels are, those of missing heights of any kind among them. -/
  keepsPixels : ∀ tile : RasterTile α, IsStorable tile →
    ∃ bytes, encode tile = .ok bytes ∧ decode bytes = .ok tile.unplaced
  accepts : ∀ bytes : List UInt8, bytes.length ≤ word64Max →
    ((∃ tile : RasterTile α, decode bytes = .ok tile) ↔
      ∃ size payload, size < 2 ^ 32 ∧ bytes = mark ++ Bytes.ofLittle 4 size ++ payload ∧
        payload.length = 4 * size * size)
  keepsBytes : ∀ (bytes : List UInt8) (tile : RasterTile α), decode bytes = .ok tile →
    encode tile = .ok bytes
  keepsColor : ∀ (size : Nat) (pixel : Rgba), 4 * (size * size) ≤ word64Max →
    ∃ (bytes : List UInt8) (tile : RasterTile α), empty size pixel = .ok bytes ∧
      decode bytes = .ok tile ∧ tile.width = size ∧ tile.height = size ∧
      ∀ x < size, ∀ y < size, tile.pixel? x y = some pixel

theorem exists_tile_iff {bytes : List UInt8} (counted : bytes.length ≤ word64Max) :
    (∃ tile : RasterTile α, decode bytes = .ok tile) ↔
      ∃ size payload, size < 2 ^ 32 ∧ bytes = container size payload ∧
        payload.length = 4 * size * size := by
  constructor
  · rintro ⟨tile, accepted⟩
    obtain ⟨size, payload, small, isContainer, complete, -⟩ := decode_eq_ok_iff.mp accepted
    exact ⟨size, payload, small, isContainer, complete⟩
  · rintro ⟨size, payload, small, rfl, complete⟩
    have payloadCounted : 4 * size * size ≤ word64Max := by
      rw [← complete]
      simp only [container, List.length_append] at counted
      omega
    exact ⟨tileOf size payload,
      decode_eq_ok_iff.mpr ⟨size, payload, small, rfl, complete, payloadCounted, rfl⟩⟩

theorem isFaithful : IsFaithful α where
  keepsHeights := by
    intro size heights place complete counted
    obtain ⟨tile, made, storable, width, pixels⟩ := ofHeights_eq_ok place complete counted
    obtain ⟨bytes, written, read⟩ := decode_encode_of_isStorable storable
    exact ⟨tile, bytes, tile.unplaced, made, written, read, rfl,
      holds_of_pixels storable width complete pixels⟩
  keepsPixels _ := decode_encode_of_isStorable
  accepts _ := exists_tile_iff
  keepsBytes _ _ := encode_of_decode
  keepsColor := by
    intro size pixel counted
    have storable : IsStorable (solid size pixel : RasterTile α) := isStorable_solid counted
    obtain ⟨bytes, written, read⟩ := decode_encode_of_isStorable storable
    refine ⟨bytes, solid size pixel, (empty_eq_ok counted).trans written, read, rfl, rfl, ?_⟩
    intro x inX y inY
    exact pixel?_solid pixel inX inY

/-- One, a missing number, negative zero and infinity. -/
def unusualHeights : Array Float32 :=
  #[Float32.ofBits 0x3F800000, Float32.ofBits 0x7FC00000, Float32.ofBits 0x80000000,
    Float32.ofBits 0x7F800000]

theorem isFaithful_unusualHeights :
    unusualHeights.size = 2 * 2 ∧
      ∃ (tile : RasterTile Rat) (bytes : List UInt8) (copy : RasterTile Rat),
        RasterTile.ofHeights 2 2 unusualHeights (some ⟨0, 0, 1, 1⟩) = .ok tile ∧
        encode tile = .ok bytes ∧ decode bytes = .ok copy ∧ copy.bytes = tile.bytes ∧
        Holds copy 2 unusualHeights :=
  ⟨rfl, isFaithful.keepsHeights 2 unusualHeights (some ⟨0, 0, 1, 1⟩) rfl (by decide)⟩

end RawContainer

end TileAtlas
