import TileAtlas.Proofs.Raster.Sampling
import TileAtlas.Proofs.Sequence

/-!
Contract: where the samples of a raster pixel lie in a buffer that was read.

Owns:
- which positions have a cell, and its place;
- buffers as the lists of their bytes, and their slices;
- `MemoryRaster.slice?_gather`: the bytes of a cell of a gathered window are
  those of the samples of one raster pixel;
- `MemoryRaster.read_eq_ok`, a read that succeeded taken apart.

A cell is a pixel of the buffer.  Rows of cells come one after another, and the
samples of a cell lie side by side.
-/

namespace TileAtlas

/-! ## Places of cells -/

theorem pixelIndex?_of_inside {width height column row : Nat} (inX : column < width)
    (inY : row < height) : pixelIndex? column row width height = some (row * width + column) := by
  unfold pixelIndex?
  rw [if_pos (by omega)]
  rfl

theorem pixelIndex?_of_outside {x y : Int} {width height : Nat}
    (outside : (x < 0 ∨ (width : Int) ≤ x) ∨ y < 0 ∨ (height : Int) ≤ y) :
    pixelIndex? x y width height = none := by
  unfold pixelIndex?
  rw [if_neg (by omega)]

/-! ## Bytes of cells -/

namespace Bytes

theorem toList_append (buffer : ByteArray) (row : List UInt8) :
    toList (append buffer row) = toList buffer ++ row := by
  induction row generalizing buffer with
  | nil => exact (List.append_nil _).symm
  | cons head tail inductionHypothesis =>
      have pushed : toList (buffer.push head) = toList buffer ++ [head] := Array.toList_push
      have folded := inductionHypothesis (buffer.push head)
      rw [pushed, List.append_assoc] at folded
      exact folded

/-- A row that stands in a buffer from `start` on is the slice there. -/
theorem slice?_eq_some {buffer : ByteArray} {start : Nat} {row : List UInt8}
    (within : start + row.length ≤ buffer.size)
    (same : ∀ offset < row.length, (toList buffer)[start + offset]? = row[offset]?) :
    slice? buffer start row.length = some row := by
  unfold slice?
  rw [if_pos within]
  refine congrArg some (List.ext_getElem (by simp) ?_)
  intro offset inRange inRow
  have inBuffer : start + offset < buffer.data.size := by
    have : buffer.data.size = buffer.size := rfl
    omega
  have here : buffer.data[start + offset]? = some row[offset] := by
    rw [← Array.getElem?_toList, ← List.getElem?_eq_getElem inRow]
    exact same offset inRow
  rw [List.getElem_map, List.getElem_range]
  show buffer.data[start + offset]! = row[offset]
  rw [getElem!_pos buffer.data (start + offset) inBuffer]
  exact Option.some.inj ((Array.getElem?_eq_getElem inBuffer).symm.trans here)

end Bytes

namespace PixelType

theorem length_encode (type : PixelType) (sample : Sample) :
    (type.encode sample).length = type.size := Bytes.length_ofLittle _ _

theorem toList_foldl_write (type : PixelType) (samples : List Sample) (buffer : ByteArray) :
    Bytes.toList (samples.foldl type.write buffer) =
      Bytes.toList buffer ++ samples.flatMap type.encode := by
  induction samples generalizing buffer with
  | nil => exact (List.append_nil _).symm
  | cons head tail inductionHypothesis =>
      rw [List.foldl_cons, inductionHypothesis, List.flatMap_cons, ← List.append_assoc]
      exact congrArg (· ++ tail.flatMap type.encode) (Bytes.toList_append buffer _)

end PixelType

namespace MemoryRaster

variable {α : Type} {raster : MemoryRaster α}

/-- The bytes of one pixel. -/
def pixelBytes (raster : MemoryRaster α) (type : PixelType) (x y : Nat) : List UInt8 :=
  (raster.pixelSamples x y).flatMap type.encode

theorem length_pixelBytes (complete : raster.IsComplete) (type : PixelType) {x y : Nat}
    (inX : x < raster.info.width) (inY : y < raster.info.height) :
    (raster.pixelBytes type x y).length = raster.info.bands * type.size := by
  unfold pixelBytes
  rw [length_flatMap_uniform _ _ fun sample _ => type.length_encode sample,
    length_pixelSamples complete inX inY]

theorem toList_gather (raster : MemoryRaster α) (type : PixelType) (plan : ReadPlan) :
    Bytes.toList ((raster.gather plan).foldl type.write ByteArray.empty) =
      plan.rows.flatMap fun y => plan.columns.flatMap fun x => raster.pixelBytes type x y := by
  rw [PixelType.toList_foldl_write]
  show [] ++ (raster.gather plan).flatMap type.encode = _
  unfold gather pixelBytes
  simp only [List.nil_append, List.flatMap_assoc]

/-- Cell `(x, y)` of a gathered window holds the bytes of the raster pixel in
column `x` and row `y` of the plan. -/
theorem slice?_gather (complete : raster.IsComplete) (type : PixelType) {plan : ReadPlan}
    (columnsInside : ∀ column ∈ plan.columns, column < raster.info.width)
    (rowsInside : ∀ row ∈ plan.rows, row < raster.info.height) {x y : Nat}
    (inX : x < plan.columns.length) (inY : y < plan.rows.length) :
    Bytes.slice? ((raster.gather plan).foldl type.write ByteArray.empty)
        ((y * plan.columns.length + x) * (raster.info.bands * type.size))
        (raster.info.bands * type.size) =
      some (raster.pixelBytes type plan.columns[x] plan.rows[y]) := by
  have cellLength : ∀ row ∈ plan.rows, ∀ column ∈ plan.columns,
      (raster.pixelBytes type column row).length = raster.info.bands * type.size :=
    fun row inRows column inColumns =>
      length_pixelBytes complete type (columnsInside column inColumns) (rowsInside row inRows)
  have rowLength : ∀ row ∈ plan.rows,
      (plan.columns.flatMap fun column => raster.pixelBytes type column row).length =
        plan.columns.length * (raster.info.bands * type.size) :=
    fun row inRows => length_flatMap_uniform _ _ (cellLength row inRows)
  have thisCell := cellLength _ (List.getElem_mem inY) _ (List.getElem_mem inX)
  have cellEnd : (x + 1) * (raster.info.bands * type.size) ≤
      plan.columns.length * (raster.info.bands * type.size) := Nat.mul_le_mul_right _ inX
  have rowEnd : (y + 1) * (plan.columns.length * (raster.info.bands * type.size)) ≤
      plan.rows.length * (plan.columns.length * (raster.info.bands * type.size)) :=
    Nat.mul_le_mul_right _ inY
  rw [Nat.succ_mul] at cellEnd rowEnd
  have start : (y * plan.columns.length + x) * (raster.info.bands * type.size) =
      y * (plan.columns.length * (raster.info.bands * type.size)) +
        x * (raster.info.bands * type.size) := by
    rw [Nat.add_mul, Nat.mul_assoc]
  have total : ((raster.gather plan).foldl type.write ByteArray.empty).size =
      plan.rows.length * (plan.columns.length * (raster.info.bands * type.size)) := by
    show (Bytes.toList _).length = _
    rw [toList_gather, length_flatMap_uniform _ _ rowLength]
  rw [start, ← thisCell]
  apply Bytes.slice?_eq_some
  · rw [total, thisCell]
    omega
  · intro offset inCell
    rw [thisCell] at inCell ⊢
    rw [toList_gather, Nat.add_assoc,
      getElem?_flatMap_uniform _ _ rowLength inY (by omega),
      getElem?_flatMap_uniform _ _ (cellLength _ (List.getElem_mem inY)) inX inCell]

variable [Scalar α] [Allocator]

/-- What a read that succeeded was asked for and gives. -/
theorem read_eq_ok {request : ReadRequest} {data : ByteArray}
    (answered : raster.read request = .ok data) :
    request.region.Fits raster.info.width raster.info.height ∧
      (bufferLength request.outWidth request.outHeight raster.info.bands request.type).isOk =
        true ∧
      data = (raster.gather
        (ReadPlan.ofRegion α request.region request.outWidth request.outHeight)).foldl
          request.type.write ByteArray.empty := by
  unfold read at answered
  split at answered
  · cases answered
  · next plan accepted =>
      obtain ⟨fits, -, -, reserved, rfl⟩ := ReadPlan.check_eq_ok accepted
      cases answered
      exact ⟨fits, reserved, rfl⟩

/-- Cell `(x, y)` of a window that was read holds the bytes of the nearest
raster pixel. -/
theorem slice?_read (complete : raster.IsComplete) {request : ReadRequest} {data : ByteArray}
    (answered : raster.read request = .ok data) {x y : Nat} (inX : x < request.outWidth)
    (inY : y < request.outHeight) :
    Bytes.slice? data
        ((y * request.outWidth + x) * (raster.info.bands * request.type.size))
        (raster.info.bands * request.type.size) =
      some (raster.pixelBytes request.type
        (nearestSource α x request.outWidth request.region.xOff request.region.width)
        (nearestSource α y request.outHeight request.region.yOff request.region.height)) := by
  obtain ⟨fits, -, rfl⟩ := read_eq_ok answered
  have columnCount : (ReadPlan.ofRegion α request.region request.outWidth
      request.outHeight).columns.length = request.outWidth := by
    simp [ReadPlan.ofRegion]
  have rowCount : (ReadPlan.ofRegion α request.region request.outWidth
      request.outHeight).rows.length = request.outHeight := by
    simp [ReadPlan.ofRegion]
  have cell := slice?_gather complete request.type
    (fun _ member => ReadPlan.column_lt fits member) (fun _ member => ReadPlan.row_lt fits member)
    (columnCount.symm ▸ inX) (rowCount.symm ▸ inY)
  simpa only [ReadPlan.ofRegion, List.length_map, List.length_range, List.getElem_map,
    List.getElem_range] using cell

end MemoryRaster

end TileAtlas
