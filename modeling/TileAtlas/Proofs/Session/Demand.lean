import TileAtlas.Proofs.Session.Call

/-!
Contract: what calls need rasters for.

Owns:
- `ClientCall`, the calls that clients make on a tileset;
- `Demand`, what is left of a call once it has looked at what it is asked for and
  at the store, and `run_eq_meet`: a call prepares its demand and then meets it;
- `run_render` and `run_meet_description`, the two ways of working on a raster,
  step by step.

Rasters are only worked on where a demand is met, so what holds of rasters in all
calls is seen in these two.
-/

namespace TileAtlas

/-- A call of a client. -/
inductive ClientCall where
  | getTile (tile : TileCoordinate)
  | seed (tile : TileCoordinate)
  | serve (address : TileAddress)
  | render (tile : TileCoordinate)
  | layerSettings

/-- What a call needs a raster for. -/
inductive Demand where
  /-- For nothing: the answer was stored. -/
  | nothing
  /-- For a tile, which is stored if there is a key. -/
  | tile (tile : TileCoordinate) (key : Option String)
  | description

namespace ClientCall

/-- The call on a tileset, of which only matters here whether it fails. -/
def run [Allocator] (tileset : Tileset) (source : RasterSource) : ClientCall → Call Unit
  | .getTile tile => do
      let _ ← tileset.getTile source tile
      return ()
  | .seed tile => do
      let _ ← tileset.seed source tile
      return ()
  | .serve address => do
      let _ ← tileset.serve source address
      return ()
  | .render tile => do
      let _ ← tileset.render source tile
      return ()
  | .layerSettings => do
      let _ ← tileset.layerSettings source
      return ()

end ClientCall

namespace Tileset

/-- Look a tile up. -/
def prepareTile (tileset : Tileset) (tile : TileCoordinate) : Call Demand := do
  let key ← Call.ofExcept (tileset.tileKey tile)
  match ← Session.lookUp key with
  | some _ => return .nothing
  | none => return .tile tile (some key)

/-- What a call does before it needs a raster. -/
def prepare (tileset : Tileset) : ClientCall → Call Demand
  | .getTile tile => tileset.prepareTile tile
  | .seed tile => do
      let key ← Call.ofExcept (tileset.tileKey tile)
      return .tile tile (some key)
  | .serve address => do
      let tile ← Call.ofExcept (tileset.resolve address)
      tileset.prepareTile tile
  | .render tile => return .tile tile none
  | .layerSettings => return .description

/-- What is done with a rendered tile. -/
def conclude (tileset : Tileset) (rendered : RasterTile Float) : Option String → Call Unit
  | none => return ()
  | some key => do
      let bytes ← Call.ofExcept (tileset.settings.format.encode rendered)
      Session.keep key bytes

def meet [Allocator] (tileset : Tileset) (source : RasterSource) : Demand → Call Unit
  | .nothing => return ()
  | .tile tile key => do
      let rendered ← tileset.render source tile
      tileset.conclude rendered key
  | .description => do
      let _ ← tileset.layerSettings source
      return ()

variable [Allocator] {tileset : Tileset} {source : RasterSource}

theorem store_eq_meet (tile : TileCoordinate) (key : String) :
    (do let _ ← tileset.store source tile key; return ()) =
      tileset.meet source (.tile tile (some key)) := by
  simp [store, meet, conclude]

theorem getTile_eq_meet (tile : TileCoordinate) :
    (do let _ ← tileset.getTile source tile; return ()) =
      tileset.prepareTile tile >>= tileset.meet source := by
  unfold getTile prepareTile
  rw [bind_assoc, bind_assoc]
  refine bind_congr fun key => ?_
  rw [bind_assoc, bind_assoc]
  refine bind_congr fun found => ?_
  cases found with
  | some bytes => rfl
  | none =>
      rw [pure_bind]
      exact store_eq_meet tile key

theorem run_eq_meet (call : ClientCall) :
    call.run tileset source = tileset.prepare call >>= tileset.meet source := by
  cases call with
  | getTile tile => exact getTile_eq_meet tile
  | seed tile =>
      rw [ClientCall.run, prepare, seed, bind_assoc, bind_assoc]
      refine bind_congr fun key => ?_
      rw [pure_bind]
      exact store_eq_meet tile key
  | serve address =>
      rw [ClientCall.run, prepare, serve, bind_assoc, bind_assoc]
      refine bind_congr fun tile => ?_
      rw [← getTile_eq_meet]
      simp
  | render tile => simp [ClientCall.run, prepare, meet, conclude]
  | layerSettings => simp [ClientCall.run, prepare, meet]

/-! ## What the steps do -/

theorem run_render (tile : TileCoordinate) (session : Session) :
    (tileset.render source tile).run.run session =
      match tileset.request tile with
      | .error error => (.error error, session)
      | .ok request =>
          match (Session.checkOut source).run.run session with
          | (.error error, asked) => (.error error, asked)
          | (.ok raster, lent) =>
              match request.render raster tileset.settings.options with
              | .error error => (.error error, lent)
              | .ok rendered => (.ok rendered, ((Session.checkIn raster).run.run lent).2) := by
  unfold render
  cases tileset.request tile with
  | error error => rfl
  | ok request =>
      show (Session.checkOut source >>= _ : Call (RasterTile Float)).run.run session = _
      rw [Call.run_bind]
      obtain ⟨error | raster, lent⟩ := (Session.checkOut source).run.run session
      · rfl
      · dsimp only
        cases request.render raster tileset.settings.options with
        | error error => rfl
        | ok rendered => rfl

theorem run_meet_tile (session : Session) (tile : TileCoordinate) (key : Option String) :
    (tileset.meet source (.tile tile key)).run.run session =
      match (tileset.render source tile).run.run session with
      | (.ok rendered, given) => (tileset.conclude rendered key).run.run given
      | (.error error, ended) => (.error error, ended) := by
  rw [meet, Call.run_bind]
  obtain ⟨error | rendered, ended⟩ := (tileset.render source tile).run.run session
  · rfl
  · rfl

theorem run_meet_description (session : Session) :
    (tileset.meet source .description).run.run session =
      match (Session.checkOut source).run.run session with
      | (.error error, asked) => (.error error, asked)
      | (.ok raster, lent) => ((tileset.footprint raster.info).map fun _ => (),
          ((Session.checkIn raster).run.run lent).2) := by
  rw [meet, layerSettings, Call.run_bind, Call.run_bind]
  obtain ⟨error | raster, lent⟩ := (Session.checkOut source).run.run session
  · rfl
  · dsimp only
    cases tileset.footprint raster.info with
    | error error => rfl
    | ok extent => rfl

end Tileset

end TileAtlas
