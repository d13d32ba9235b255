import TileAtlas.Proofs.Cache.Key
import TileAtlas.Proofs.Cache.Recency
import TileAtlas.Proofs.Machine
import TileAtlas.Proofs.Session.Call
import TileAtlas.Raster.Memory

/-!
Contract: what is stored does not show in the answers.

Owns:
- `Tileset.fresh`, the answer for a tile without any store;
- `Session.IsFaithful`, the invariant: what is stored under a key is the fresh
  answer for some tile of that key;
- `TileCall` and `Tileset.answers`, runs of calls;
- `answers_eq_fresh`: a run that starts with an empty memory store gives the
  fresh answers.

Does not own: the disk store, whose files others may change.
-/

namespace TileAtlas

section Sessions

variable [Allocator]

namespace Tileset

/-- The answer for a tile where nothing is stored: request, render, encode. -/
def fresh (tileset : Tileset) (raster : Dataset Float) (tile : TileCoordinate) :
    Except Error ByteArray := do
  let request ← tileset.request tile
  let rendered ← request.render raster tileset.settings.options
  tileset.settings.format.encode rendered

/-- The fresh answer depends on the place of a tile only. -/
theorem fresh_congr (tileset : Tileset) (raster : Dataset Float) {tile other : TileCoordinate}
    (samePlace : tile.z = other.z ∧ tile.x = other.x ∧ tile.y = other.y) :
    tileset.fresh raster tile = tileset.fresh raster other := by
  obtain ⟨sameLevel, sameColumn, sameRow⟩ := samePlace
  unfold fresh request
  rw [sameLevel, sameColumn, sameRow]

/-- An entry of a store holds the fresh answer for a tile of its key. -/
def IsFresh (tileset : Tileset) (raster : Dataset Float) (entry : String × ByteArray) : Prop :=
  ∃ tile, tileset.tileKey tile = .ok entry.1 ∧ tileset.fresh raster tile = .ok entry.2

end Tileset

/-- Every open raster is `raster`, and every stored entry is fresh. -/
structure Session.IsFaithful (tileset : Tileset) (raster : Dataset Float) (session : Session) :
    Prop where
  idle_eq : ∀ handle ∈ session.idle, handle = raster
  stored : ∃ store, session.store = .memory store ∧
    ∀ entry ∈ store.entries, tileset.IsFresh raster entry

variable {tileset : Tileset} {raster : Dataset Float} {source : RasterSource}

namespace Session

/-! ## Steps -/

theorem checkOut_gives (opens : ∀ files, source files = .ok raster) :
    Call.Gives (IsFaithful tileset raster) (checkOut source) (.ok raster) := by
  rintro ⟨idle, store, files, events⟩ ⟨idleEq, stored⟩
  cases idle with
  | nil =>
      rw [run_checkOut_nil, opens files]
      exact ⟨rfl, idleEq, stored⟩
  | cons handle rest =>
      rw [run_checkOut_cons, idleEq handle (by simp)]
      exact ⟨rfl, fun other inRest => idleEq other (by simp [inRest]), stored⟩

theorem checkIn_gives :
    Call.Gives (IsFaithful tileset raster) (checkIn raster) (.ok ()) := by
  intro session ⟨idleEq, stored⟩
  refine ⟨rfl, ?_⟩
  show IsFaithful tileset raster (if session.idle.length < mostIdle then _ else session)
  split
  · refine ⟨fun handle member => ?_, stored⟩
    rcases List.mem_cons.mp member with isRaster | inIdle
    · exact isRaster
    · exact idleEq handle inIdle
  · exact ⟨idleEq, stored⟩

/-- Bytes that are found are the fresh answer for every tile of the key. -/
theorem lookUp_ensures (directories : tileset.layout.HasDirectories) {tile : TileCoordinate}
    {key : String} (tileKey : tileset.tileKey tile = .ok key) :
    Call.Ensures (IsFaithful tileset raster) (lookUp key) fun answer session =>
      IsFaithful tileset raster session ∧ ∃ found, answer = .ok found ∧
        ∀ bytes, found = some bytes → tileset.fresh raster tile = .ok bytes := by
  rintro ⟨idle, store, files, events⟩ ⟨idleEq, store, rfl, entriesFresh⟩
  rw [run_lookUp_memory]
  refine ⟨⟨idleEq, _, rfl, fun entry member => ?_⟩, _, rfl, fun bytes found => ?_⟩
  · exact entriesFresh entry (RecencyStore.mem_entries_get member)
  · rw [RecencyStore.get_eq_find?] at found
    obtain ⟨other, otherKey, otherFresh⟩ :=
      entriesFresh (key, bytes) (RecencyStore.mem_entries_of_find? found)
    have samePlace := KeyLayout.place_eq_of_key_eq directories tileKey otherKey
    rw [tileset.fresh_congr raster samePlace, otherFresh]

theorem keep_gives {tile : TileCoordinate} {key : String} {bytes : ByteArray}
    (tileKey : tileset.tileKey tile = .ok key) (isFresh : tileset.fresh raster tile = .ok bytes) :
    Call.Gives (IsFaithful tileset raster) (keep key bytes) (.ok ()) := by
  rintro ⟨idle, store, files, events⟩ ⟨idleEq, store, rfl, entriesFresh⟩
  rw [run_keep_memory]
  refine ⟨rfl, idleEq, _, rfl, fun entry member => ?_⟩
  rcases RecencyStore.mem_entries_put member with rfl | earlier
  · exact ⟨tile, tileKey, isFresh⟩
  · exact entriesFresh entry earlier

end Session

namespace Tileset

theorem render_gives (opens : ∀ files, source files = .ok raster) (tile : TileCoordinate) :
    Call.Gives (Session.IsFaithful tileset raster) (tileset.render source tile) (do
      let request ← tileset.request tile
      request.render raster tileset.settings.options) := by
  refine (Call.gives_ofExcept (tileset.request tile)).bind _ fun request _ => ?_
  refine (Session.checkOut_gives opens).andThen ?_
  cases request.render raster tileset.settings.options with
  | ok rendered =>
      exact (Call.gives_ofExcept (.ok rendered)).andThen
        (Session.checkIn_gives.andThen (Call.gives_pure rendered))
  | error error => exact (Call.gives_ofExcept (.error error)).stop

/-- Storing gives the fresh answer; only answers without error are kept. -/
theorem store_gives (opens : ∀ files, source files = .ok raster) {tile : TileCoordinate}
    {key : String} (tileKey : tileset.tileKey tile = .ok key) :
    Call.Gives (Session.IsFaithful tileset raster) (tileset.store source tile key)
      (tileset.fresh raster tile) := by
  have stages : tileset.fresh raster tile = (do
      let request ← tileset.request tile
      request.render raster tileset.settings.options) >>= tileset.settings.format.encode := by
    rw [fresh, bind_assoc]
  rw [stages]
  refine (render_gives opens tile).bind _ fun rendered renders => ?_
  cases encoded : tileset.settings.format.encode rendered with
  | ok bytes =>
      have isFresh : tileset.fresh raster tile = .ok bytes := by
        rw [stages, renders]
        exact encoded
      exact (Call.gives_ofExcept (.ok bytes)).andThen
        ((Session.keep_gives tileKey isFresh).andThen (Call.gives_pure bytes))
  | error error => exact (Call.gives_ofExcept (.error error)).stop

theorem tileKey_gives (raster : Dataset Float) (directories : tileset.layout.HasDirectories)
    (tile : TileCoordinate) :
    ∃ key, tileset.tileKey tile = .ok key ∧
      Call.Gives (Session.IsFaithful tileset raster) (Call.ofExcept (tileset.tileKey tile))
        (.ok key) := by
  obtain ⟨key, tileKey⟩ := KeyLayout.key_isOk directories tile tileset.pyramid
    (some tileset.settings.format.name)
  exact ⟨key, tileKey, tileKey ▸ Call.gives_ofExcept _⟩

theorem seed_gives (directories : tileset.layout.HasDirectories)
    (opens : ∀ files, source files = .ok raster) (tile : TileCoordinate) :
    Call.Gives (Session.IsFaithful tileset raster) (tileset.seed source tile)
      (tileset.fresh raster tile) := by
  obtain ⟨key, tileKey, named⟩ := tileKey_gives raster directories tile
  exact named.andThen (store_gives opens tileKey)

theorem getTile_gives (directories : tileset.layout.HasDirectories)
    (opens : ∀ files, source files = .ok raster) (tile : TileCoordinate) :
    Call.Gives (Session.IsFaithful tileset raster) (tileset.getTile source tile)
      (tileset.fresh raster tile) := by
  obtain ⟨key, tileKey, named⟩ := tileKey_gives raster directories tile
  refine named.andThen (Call.Ensures.bind
    (fun found session => session.IsFaithful tileset raster ∧
      ∀ bytes, found = some bytes → tileset.fresh raster tile = .ok bytes) ?_ ?_)
  · intro session faithful
    obtain ⟨kept, found, answered, isFresh⟩ :=
      Session.lookUp_ensures directories tileKey session faithful
    rw [answered]
    exact ⟨kept, isFresh⟩
  · rintro found session ⟨faithful, isFresh⟩
    cases found with
    | some bytes =>
        rw [isFresh bytes rfl]
        exact Call.gives_pure bytes session faithful
    | none => exact store_gives opens tileKey session faithful

end Tileset

/-! ## Runs -/

/-- A call for a tile. -/
inductive TileCall where
  /-- The stored bytes will do. -/
  | get (tile : TileCoordinate)
  /-- Rendered in any case. -/
  | seed (tile : TileCoordinate)

namespace TileCall

/-- The tile that is asked for. -/
def tile : TileCall → TileCoordinate
  | .get tile | .seed tile => tile

/-- The call on a tileset. -/
def run (tileset : Tileset) (source : RasterSource) : TileCall → Call ByteArray
  | .get tile => tileset.getTile source tile
  | .seed tile => tileset.seed source tile

end TileCall

namespace Tileset

/-- The answers to calls that are made one after another. -/
def answers (tileset : Tileset) (source : RasterSource) :
    Session → List TileCall → List (Except Error ByteArray)
  | _, [] => []
  | session, call :: rest =>
      let ended := (call.run tileset source).run.run session
      ended.1 :: tileset.answers source ended.2 rest

theorem run_gives (directories : tileset.layout.HasDirectories)
    (opens : ∀ files, source files = .ok raster) (call : TileCall) :
    Call.Gives (Session.IsFaithful tileset raster) (call.run tileset source)
      (tileset.fresh raster call.tile) := by
  cases call with
  | get tile => exact getTile_gives directories opens tile
  | seed tile => exact seed_gives directories opens tile

theorem answers_of_isFaithful (directories : tileset.layout.HasDirectories)
    (opens : ∀ files, source files = .ok raster) (calls : List TileCall) {session : Session}
    (faithful : session.IsFaithful tileset raster) :
    tileset.answers source session calls = calls.map fun call => tileset.fresh raster call.tile := by
  induction calls generalizing session with
  | nil => rfl
  | cons call rest inductionHypothesis =>
      obtain ⟨answered, kept⟩ := run_gives directories opens call session faithful
      rw [answers, List.map_cons, inductionHypothesis kept, answered]

/-- Whatever the capacity of the store and whatever was called before, every
answer is the one that would be given without a store. -/
theorem answers_eq_fresh (tileset : Tileset) (raster : Dataset Float) (source : RasterSource)
    (capacity : Nat) (files : FileTree) (events : List SessionEvent) (calls : List TileCall)
    (directories : tileset.layout.HasDirectories)
    (opens : ∀ files, source files = .ok raster) :
    tileset.answers source ⟨[], .memory (RecencyStore.empty capacity), files, events⟩ calls =
      calls.map fun call => tileset.fresh raster call.tile := by
  refine answers_of_isFaithful directories opens calls ⟨?_, _, rfl, ?_⟩
  · intro handle member
    cases member
  · intro entry member
    cases member

end Tileset

end Sessions

namespace Tileset

/-! ### Tiles of the whole world over a raster of one pixel -/

/-- Raw heights with keys in hexadecimal. -/
def worldHeights : Tileset where
  settings := {
    name := "heights"
    grid := "GoogleMapsCompatible"
    format := .raw
    elevation := true
    source := ⟨"world.tif", none, none⟩
    cache := ⟨.memory, .arcGis, none, none, 4096⟩
    options := RenderOptions.standard }
  pyramid := Pyramid.webMercator
  srs := ⟨"EPSG:3857", some 3857, "+proj=merc", false⟩
  layout := .arcGis ""

/-- One pixel of sixteen bits. -/
def worldPixel : MemoryRaster Float where
  info := {
    width := 1
    height := 1
    bands := 1
    pixelType := .int16
    noData := none
    geoTransform := ⟨0.0, 1.0, 0.0, 0.0, 0.0, -1.0⟩
    srs := some "EPSG:4326" }
  samples := #[⟨0⟩]

/-- The first tile of a level, under names and a dimension value with
separators. -/
def worldTile (z : Nat) : TileCoordinate := ⟨"heights", "a/b", z, 0, 0, [("time", "1/2")]⟩

section WorldHeights

open scoped Allocator

/-- The pyramid has levels up to 18. -/
theorem answers_worldHeights :
    worldHeights.layout.HasDirectories ∧
      worldHeights.answers (fun _ => .ok worldPixel.toDataset)
          ⟨[], .memory (RecencyStore.empty 4096), .empty, []⟩
          [.seed (worldTile 0), .get (worldTile 0),
            .get (worldTile 19)] =
        [worldHeights.fresh worldPixel.toDataset (worldTile 0),
          worldHeights.fresh worldPixel.toDataset (worldTile 0),
          .error (.config (.tileOutsideGrid 19 0 0 "GoogleMapsCompatible"))] :=
  ⟨trivial, answers_eq_fresh worldHeights worldPixel.toDataset _ 4096 .empty [] _ trivial
    fun _ => rfl⟩

end WorldHeights

end Tileset

end TileAtlas
