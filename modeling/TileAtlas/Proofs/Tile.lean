import Mathlib
import TileAtlas.Proofs.Machine
import TileAtlas.Proofs.Sequence
import TileAtlas.Tile

/-!
Contract: the pixels of a tile as words and as bytes.

Owns:
- `Rgba.word_ofWord` and `Rgba.height_ofHeight`: a pixel keeps the word or the
  height that it was made from;
- the number of bytes of a tile, and its pixels by their places;
- which sizes a tile of one colour and a tile of heights can have.
-/

namespace TileAtlas

theorem Rgba.word_ofWord {word : Nat} (small : word < 2 ^ 32) : (Rgba.ofWord word).word = word := by
  have row : (Rgba.ofWord word).toList = Bytes.ofLittle 4 word := by
    simp [Rgba.ofWord, Rgba.toList, Bytes.ofLittle, Nat.div_div_eq_div_mul]
  rw [Rgba.word, row, Bytes.little_ofLittle, Nat.mod_eq_of_lt small]

/-- A height is unpacked as it was packed, no number included. -/
theorem Rgba.height_ofHeight (height : Float32) : (Rgba.ofHeight height).height = height := by
  rw [Rgba.height, Rgba.ofHeight, Rgba.word_ofWord height.toBits.toNat_lt, UInt32.ofNat_toNat,
    Float32.ofBits_toBits]

theorem Rgba.length_toList (pixel : Rgba) : pixel.toList.length = 4 := rfl

namespace RasterTile

variable {α : Type} {tile : RasterTile α} {width height : Nat}

theorem byteCount_of_le (fits : width * height * 4 ≤ word64Max) :
    byteCount width height = .ok (width * height * 4) := by
  have area : width * height ≤ word64Max := by omega
  simp only [byteCount, Count.times_of_le area, bind, Except.bind, Count.times_of_le fits]

theorem flat_of_le (fits : width * height * 4 ≤ word64Max) (place : Option (Extent α)) :
    flat width height place =
      .ok ⟨width, height, .elevation, Array.replicate (width * height) .transparent, place⟩ := by
  rw [flat, byteCount_of_le fits]
  rfl

theorem ofHeights_of_lt (large : word64Max < width * height) (heights : Array Float32)
    (place : Option (Extent α)) : ofHeights width height heights place = .error .overflow := by
  rw [ofHeights, Count.times_of_lt large]
  rfl

/-- There is a tile for as many heights as there are pixels, if they can be
counted. -/
theorem ofHeights_eq_ok_iff {heights : Array Float32} {place : Option (Extent α)} :
    ofHeights width height heights place = .ok tile ↔
      heights.size = width * height ∧ width * height ≤ word64Max ∧
        tile = ⟨width, height, .elevation, heights.map Rgba.ofHeight, place⟩ := by
  unfold ofHeights
  constructor
  · intro made
    obtain ⟨expected, counted, made⟩ := bind_eq_ok made
    obtain ⟨rfl, fits⟩ := Count.times_eq_ok_iff.mp counted
    split at made
    next complete => exact ⟨complete, fits, (Except.ok.inj made).symm⟩
    next => cases made
  · rintro ⟨complete, fits, rfl⟩
    rw [Count.times_of_le fits]
    exact if_pos complete

theorem length_bytes (tile : RasterTile α) : tile.bytes.length = 4 * tile.pixels.size := by
  rw [bytes, length_flatMap_uniform Rgba.toList tile.pixels.toList
      fun pixel _ => Rgba.length_toList pixel,
    Array.length_toList, Nat.mul_comm]

theorem pixel?_of_lt {x y : Nat} (inX : x < tile.width) (inY : y < tile.height) :
    tile.pixel? x y = tile.pixels[y * tile.width + x]? := if_pos ⟨inX, inY⟩

/-- The tile, as far as it does not say where it lies. -/
def unplaced (tile : RasterTile α) : RasterTile α := { tile with subExtent := none }

end RasterTile

end TileAtlas
