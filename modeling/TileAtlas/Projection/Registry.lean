/-!
Contract: the coordinate systems that are known by a number of the EPSG
registry.

Owns the table from codes to parameter strings.
-/

namespace TileAtlas.Registry

def definitions : List (Nat × String) :=
  [ (4326, "+proj=longlat +datum=WGS84 +no_defs"),
    (3857, "+proj=merc +a=6378137 +b=6378137 +lat_ts=0.0 +lon_0=0.0 +x_0=0.0 +y_0=0 +k=1.0 " ++
      "+units=m +nadgrids=@null +wktext  +no_defs"),
    (3395, "+proj=merc +lon_0=0 +k=1 +x_0=0 +y_0=0 +datum=WGS84 +units=m +no_defs"),
    (3832, "+proj=merc +lon_0=150 +k=1 +x_0=0 +y_0=0 +datum=WGS84 +units=m +no_defs"),
    (3994, "+proj=merc +lon_0=100 +lat_ts=-41 +x_0=0 +y_0=0 +datum=WGS84 +units=m +no_defs"),
    (32632, "+proj=utm +zone=32 +datum=WGS84 +units=m +no_defs"),
    (32633, "+proj=utm +zone=33 +datum=WGS84 +units=m +no_defs"),
    (32733, "+proj=utm +zone=33 +south +datum=WGS84 +units=m +no_defs"),
    (4087, "+proj=eqc +lat_ts=0 +lat_0=0 +lon_0=0 +x_0=0 +y_0=0 +datum=WGS84 +units=m +no_defs"),
    (4052, "+proj=longlat +a=6370997 +b=6370997 +no_defs"),
    (4047, "+proj=longlat +a=6371007 +b=6371007 +no_defs"),
    (4258, "+proj=longlat +ellps=GRS80 +towgs84=0,0,0,0,0,0,0 +no_defs"),
    (4269, "+proj=longlat +ellps=GRS80 +towgs84=0,0,0,0,0,0,0 +no_defs"),
    (21781, "+proj=somerc +lat_0=46.95240555555556 +lon_0=7.439583333333333 +k_0=1 +x_0=600000 " ++
      "+y_0=200000 +ellps=bessel +towgs84=674.4,15.1,405.3,0,0,0,0 +units=m +no_defs"),
    (2056, "+proj=somerc +lat_0=46.95240555555556 +lon_0=7.439583333333333 +k_0=1 +x_0=2600000 " ++
      "+y_0=1200000 +ellps=bessel +towgs84=674.374,15.056,405.346,0,0,0,0 +units=m +no_defs"),
    (2154, "+proj=lcc +lat_1=49 +lat_2=44 +lat_0=46.5 +lon_0=3 +x_0=700000 +y_0=6600000 " ++
      "+ellps=GRS80 +towgs84=0,0,0,0,0,0,0 +units=m +no_defs"),
    (2314, "+proj=cass +lat_0=10.44166666666667 +lon_0=-61.33333333333334 " ++
      "+x_0=86501.46392052001 +y_0=65379.0134283 +a=6378293.645208759 +b=6356617.987679838 " ++
      "+towgs84=-61.702,284.488,472.052,0,0,0,0 +to_meter=0.3047972654 +no_defs"),
    (5880, "+proj=poly +lat_0=0 +lon_0=-54 +x_0=5000000 +y_0=10000000 +ellps=GRS80 " ++
      "+towgs84=0,0,0,0,0,0,0 +units=m +no_defs") ]

def definition? (code : Nat) : Option String := definitions.lookup code

end TileAtlas.Registry
