import TileAtlas.Projection.Parameters

/-!
Contract: the meridians that longitudes are counted from.

Owns `Meridian.read?`, a name or a number to what longitudes from a meridian
are moved by.

The number is taken as it stands, without a unit: longitudes in radians move by
as many radians.
-/

namespace TileAtlas.Meridian

def table : List (String × Float) :=
  [ ("greenwich", 0.0), ("lisbon", -9.131906111111), ("paris", 2.337229166667),
    ("bogota", -74.080916666667), ("madrid", -3.687938888889), ("rome", 12.452333333333),
    ("bern", 7.439583333333), ("jakarta", 106.807719444444), ("ferro", -17.666666666667),
    ("brussels", 4.367975), ("stockholm", 18.058277777778), ("athens", 23.7163375),
    ("oslo", 10.722916666667), ("copenhagen", 12.57788) ]

def read? (text : String) : Option Float :=
  (Parameters.named? table text).orElse fun _ => Decimal.readFloat? text.toList

/-- The meridian that parameters give, Greenwich if they give none. -/
def ofParameters (given : Parameters) : Except DefinitionFault Float := do
  match ← given.text? "pm" with
  | none => return 0.0
  | some text =>
      match read? text with
      | some number => return number
      | none => throw (.unknownMeridian text)

end TileAtlas.Meridian
