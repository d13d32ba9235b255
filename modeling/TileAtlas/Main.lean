import TileAtlas.Footprint

/-!
Contract: the command that prints the extent of a raster file.

Owns: reading the file and printing.  What is printed is decided by
`TileAtlas.Footprint`.
-/

namespace TileAtlas.Footprint

def readFile? (path : String) : IO (Option ByteArray) := do
  try
    return some (← IO.FS.readBinFile path)
  catch _ => return none

def run (request : FootprintRequest) : IO UInt32 := do
  match extent request (← readFile? request.file) with
  | .ok found =>
      IO.println (line found)
      return 0
  | .error fault =>
      IO.eprintln ("Error: " ++ fault.message)
      return 1

end TileAtlas.Footprint

open TileAtlas in
/-- Print the extent of the raster file that the arguments name. -/
def main (arguments : List String) : IO UInt32 := do
  match FootprintRequest.ofArguments arguments with
  | .measure request => Footprint.run request
  | .help =>
      IO.print Footprint.usage
      return 0
  | .version =>
      IO.println "tile-footprint 0.1.0"
      return 0
  | .misuse argument =>
      IO.eprintln
        ("error: unexpected or missing argument " ++ argument ++ "\n\n" ++ Footprint.usage)
      return 2
