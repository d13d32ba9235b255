import TileAtlas.Number.Scalar

/-!
Contract: exact rational numbers as positions.

Owns: the `Scalar` instance of `Rat`, in which every operation is exact and
every number is finite.
-/

namespace TileAtlas

instance : Scalar Rat where
  decidableLess := inferInstance
  decidableAtMost := inferInstance
  ofInt := Rat.ofInt
  abs value := if value < 0 then -value else value
  floor value := .integer value.floor

end TileAtlas
