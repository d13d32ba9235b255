import TileAtlas.Number.Whole

/-!
Contract: rows of bytes and the numbers they hold.

Owns:
- little-endian and big-endian numbers of any width;
- reading a row of bytes out of a buffer and appending one to it.
-/

namespace TileAtlas.Bytes

/-- The number of a row of bytes, the first byte being the least. -/
def little : List UInt8 → Nat
  | [] => 0
  | byte :: rest => byte.toNat + 256 * little rest

/-- The number of a row of bytes, the first byte being the greatest. -/
def big (row : List UInt8) : Nat := row.foldl (fun value byte => 256 * value + byte.toNat) 0

/-- The low `count` bytes of a number, the least first. -/
def ofLittle : Nat → Nat → List UInt8
  | 0, _ => []
  | count + 1, value => UInt8.ofNat value :: ofLittle count (value / 256)

/-- The bytes from `start` on, if there are `count` of them. -/
def slice? (buffer : ByteArray) (start count : Nat) : Option (List UInt8) :=
  if start + count ≤ buffer.size then
    some ((List.range count).map fun offset => buffer.get! (start + offset))
  else none

def append (buffer : ByteArray) (row : List UInt8) : ByteArray := row.foldl ByteArray.push buffer

def ofList (row : List UInt8) : ByteArray := append ByteArray.empty row

def toList (buffer : ByteArray) : List UInt8 := buffer.data.toList

theorem length_ofLittle (count value : Nat) : (ofLittle count value).length = count := by
  induction count generalizing value with
  | zero => rfl
  | succ count hypothesis => simp [ofLittle, hypothesis]

theorem little_ofLittle (count value : Nat) :
    little (ofLittle count value) = value % 256 ^ count := by
  induction count generalizing value with
  | zero => simp [ofLittle, little, Nat.mod_one]
  | succ count hypothesis =>
      simp only [ofLittle, little, hypothesis, Nat.pow_succ, Nat.mul_comm (256 ^ count) 256]
      rw [Nat.mod_mul]
      simp

end TileAtlas.Bytes
