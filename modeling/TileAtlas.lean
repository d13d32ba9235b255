import TileAtlas.Main
import TileAtlas.Proofs.Cache.DiskRun
import TileAtlas.Proofs.Cache.Replacement
import TileAtlas.Proofs.Cache.Substitution
import TileAtlas.Proofs.Format.Acceptance
import TileAtlas.Proofs.Format.Raw
import TileAtlas.Proofs.Geometry.Cover
import TileAtlas.Proofs.Geometry.DoubleInverse
import TileAtlas.Proofs.Geometry.ExtentText
import TileAtlas.Proofs.Mesh.Curtain
import TileAtlas.Proofs.Mesh.Placement
import TileAtlas.Proofs.Mesh.Winding
import TileAtlas.Proofs.Pyramid.Flip
import TileAtlas.Proofs.Pyramid.Location
import TileAtlas.Proofs.Pyramid.MapRequest
import TileAtlas.Proofs.Pyramid.Partition
import TileAtlas.Proofs.Raster.Decoding
import TileAtlas.Proofs.Raster.Memory
import TileAtlas.Proofs.Raster.Resampling
import TileAtlas.Proofs.Render.NoData
import TileAtlas.Proofs.Render.Uniform
import TileAtlas.Proofs.Sample.Blend
import TileAtlas.Proofs.Session.Handles
import TileAtlas.Proofs.Session.Transparency
import TileAtlas.Proofs.Settings.Consistency
import TileAtlas.Proofs.Window.Border
import TileAtlas.Settings.Reading
