import TileAtlas.Proofs.Tileset

/-!
Contract: settings that have passed their check.

Owns:
- `CacheSettings.IsComplete`, a store that has what its layout needs;
- `Settings.IsConsistent`, what the check of all settings stands for;
- `Settings.Serves`, what is left to go wrong with a tileset of the settings;
- `Settings.check_isConsistent_and_serves`, which ties the two to the check.
-/

namespace TileAtlas

/-- References are refused with their own kind of error only. -/
theorem SpatialReference.exists_fault_of_ofText {text : String} {error : Error}
    (failed : ofText text = .error error) :
    ∃ label fault, error = .spatialReference label fault := by
  unfold ofText at failed
  simp only at failed
  split at failed
  · split at failed <;> cases failed
    exact ⟨_, _, rfl⟩
  · split at failed
    · unfold ofCode at failed
      split at failed <;> cases failed
      exact ⟨_, _, rfl⟩
    · cases failed
      exact ⟨_, _, rfl⟩

namespace CacheSettings

variable {settings : CacheSettings}

/-- The free layout has a template that is not empty, and a store on disk that
is laid out otherwise has a base that is not empty. -/
def IsComplete (settings : CacheSettings) : Prop :=
  match settings.layout with
  | .template => ∃ template, settings.template = some template ∧ template ≠ ""
  | .tileCache | .arcGis =>
      settings.kind = .memory ∨ ∃ base, settings.base = some base ∧ base ≠ ""

theorem getD_ne_empty_iff {given : Option String} :
    given.getD "" ≠ "" ↔ ∃ text, given = some text ∧ text ≠ "" := by
  cases given <;> simp

theorem exists_keyBase_iff : (∃ base, settings.keyBase = .ok base) ↔
    settings.kind = .memory ∨ ∃ base, settings.base = some base ∧ base ≠ "" := by
  rw [← getD_ne_empty_iff]
  unfold keyBase
  split
  case h_1 empty memory => simp [memory]
  case h_2 empty disk => simp [empty, disk]
  case h_3 notMemory notDisk =>
    refine iff_of_true ⟨_, rfl⟩ (.inr fun empty => ?_)
    cases kind : settings.kind with
    | memory => exact notMemory empty kind
    | disk => exact notDisk empty kind

theorem exists_keyLayout_iff : (∃ layout, settings.keyLayout = .ok layout) ↔
    settings.IsComplete := by
  have based (layout : String → KeyLayout) :
      (∃ value, settings.keyBase.map layout = .ok value) ↔
        ∃ base, settings.keyBase = .ok base := by
    cases settings.keyBase <;> simp [Except.map]
  unfold keyLayout IsComplete
  cases settings.layout with
  | tileCache => exact (based .tileCache).trans exists_keyBase_iff
  | arcGis => exact (based .arcGis).trans exists_keyBase_iff
  | template =>
      simp only
      rw [← getD_ne_empty_iff]
      split
      next empty => simp [empty]
      next notEmpty => exact iff_of_true ⟨_, rfl⟩ notEmpty

end CacheSettings

namespace SourceSettings

theorem exists_validExtent_iff {settings : SourceSettings} :
    (∃ extent, settings.validExtent = .ok extent) ↔
      ∀ text, settings.extent = some text → ∃ extent, Extent.ofText text = .ok extent := by
  unfold validExtent
  cases settings.extent with
  | none => simp
  | some text => cases read : Extent.ofText text <;> simp [read]

end SourceSettings

namespace Settings

variable {settings : Settings} {tileset : TilesetSettings} {name : String}

theorem isSome_pyramid?_iff : (settings.pyramid? name).isSome = true ↔
    ∃ pyramid ∈ settings.grids ++ Pyramid.builtIn, pyramid.name = name := by
  rw [pyramid?, List.find?_isSome]
  simp only [decide_eq_true_eq]

/-- Whatever the tilesets before it, a tileset is right in itself: its pyramid
is configured or built in, its extent can be read, and its store is complete. -/
structure Accepts (settings : Settings) (tileset : TilesetSettings) : Prop where
  pyramid : ∃ pyramid ∈ settings.grids ++ Pyramid.builtIn, pyramid.name = tileset.grid
  extent : ∀ text, tileset.source.extent = some text → ∃ extent, Extent.ofText text = .ok extent
  store : tileset.cache.IsComplete

/-- The names of the tilesets differ, and every one is right in itself. -/
structure IsConsistent (settings : Settings) : Prop where
  names : settings.tilesets.Pairwise fun first second => first.name ≠ second.name
  accepted : ∀ tileset ∈ settings.tilesets, settings.Accepts tileset

theorem checkTileset_eq_ok_iff {earlier : List String} :
    settings.checkTileset earlier tileset = .ok () ↔
      tileset.name ∉ earlier ∧ settings.Accepts tileset := by
  have accepts : settings.Accepts tileset ↔ (settings.pyramid? tileset.grid).isSome = true ∧
      (∃ extent, tileset.source.validExtent = .ok extent) ∧
        ∃ layout, tileset.cache.keyLayout = .ok layout := by
    rw [isSome_pyramid?_iff, SourceSettings.exists_validExtent_iff,
      CacheSettings.exists_keyLayout_iff]
    exact ⟨fun accepted => ⟨accepted.1, accepted.2, accepted.3⟩,
      fun ⟨pyramid, extent, store⟩ => ⟨pyramid, extent, store⟩⟩
  rw [accepts]
  unfold checkTileset
  by_cases named : tileset.name ∈ earlier
  · simp [named, bind, Except.bind, throw, throwThe, MonadExceptOf.throw]
  · cases settings.pyramid? tileset.grid <;> cases tileset.source.validExtent <;>
      cases tileset.cache.keyLayout <;>
      simp [named, bind, Except.bind, throw, throwThe, MonadExceptOf.throw, pure, Except.pure]

/-- The names that were seen before and the tilesets that follow have no name in
common. -/
theorem checkTilesets_eq_ok_iff (tilesets : List TilesetSettings) (earlier : List String) :
    settings.checkTilesets earlier tilesets = .ok () ↔
      tilesets.Pairwise (fun first second => first.name ≠ second.name) ∧
        ∀ tileset ∈ tilesets, tileset.name ∉ earlier ∧ settings.Accepts tileset := by
  induction tilesets generalizing earlier with
  | nil => simp [checkTilesets]
  | cons head tail inductionHypothesis =>
      have step : settings.checkTilesets earlier (head :: tail) = .ok () ↔
          settings.checkTileset earlier head = .ok () ∧
            settings.checkTilesets (head.name :: earlier) tail = .ok () := by
        rw [checkTilesets]
        cases settings.checkTileset earlier head <;> simp [bind, Except.bind]
      rw [step, inductionHypothesis, checkTileset_eq_ok_iff, List.pairwise_cons,
        List.forall_mem_cons]
      constructor
      · intro ⟨first, apart, rest⟩
        refine ⟨⟨fun tileset member same => ?_, apart⟩, first, fun tileset member => ?_⟩
        · exact (rest tileset member).1 (by rw [same]; exact List.mem_cons_self)
        · exact ⟨fun seen => (rest tileset member).1 (List.mem_cons_of_mem _ seen),
            (rest tileset member).2⟩
      · intro ⟨⟨differs, apart⟩, first, rest⟩
        refine ⟨first, apart, fun tileset member => ⟨fun seen => ?_, (rest tileset member).2⟩⟩
        cases List.mem_cons.mp seen with
        | inl same => exact differs tileset member same.symm
        | inr seen => exact (rest tileset member).1 seen

theorem check_eq_ok_iff : settings.check = .ok () ↔ settings.IsConsistent := by
  rw [check, checkTilesets_eq_ok_iff]
  constructor
  · intro ⟨names, accepted⟩
    exact ⟨names, fun tileset member => (accepted tileset member).2⟩
  · intro consistent
    exact ⟨consistent.names, fun tileset member =>
      ⟨List.not_mem_nil, consistent.accepted tileset member⟩⟩

/-- Where names differ, every tileset is found by its name. -/
theorem tileset?_eq_some
    (names : settings.tilesets.Pairwise fun first second => first.name ≠ second.name)
    (member : tileset ∈ settings.tilesets) : settings.tileset? tileset.name = some tileset := by
  unfold tileset?
  generalize settings.tilesets = tilesets at names member
  induction tilesets with
  | nil => cases member
  | cons head tail inductionHypothesis =>
      rw [List.pairwise_cons] at names
      cases List.mem_cons.mp member with
      | inl same =>
          subst same
          exact List.find?_cons_of_pos (by simp)
      | inr inTail =>
          rw [List.find?_cons_of_neg (by simpa using names.1 tileset inTail)]
          exact inductionHypothesis names.2 inTail

end Settings

/-! ## Tilesets of consistent settings -/

/-- What a tileset refuses: tiles outside its pyramid, and keys in which a
column or a row is to be counted from the far end of a level that the pyramid
does not have.  A name may bring the token for that into the template. -/
structure Tileset.IsUsable (tileset : Tileset) : Prop where
  request : ∀ tile error, tileset.request tile = .error error ↔
    ¬tileset.Holds tile ∧ error = tileset.outside tile.z tile.x tile.y
  key : ∀ tile error, tileset.tileKey tile = .error error ↔
    ∃ template, tileset.layout = .template template ∧
      KeyLayout.AsksForLevel (KeyLayout.withNames template tile tileset.settings.format.name) ∧
        tileset.pyramid.levelSize? tile.z = none ∧
          error = .config (.levelOutsideGrid tile.z tileset.pyramid.name)

theorem Tileset.isUsable_of_validExtent {tileset : Tileset} {extent : Option (Extent Float)}
    (valid : tileset.settings.source.validExtent = .ok extent) : tileset.IsUsable where
  request := by
    intro tile error
    rw [request_eq_error_iff, valid]
    exact or_iff_left fun faulty => nomatch faulty.2
  key := fun _ _ => tileKey_eq_error_iff

namespace Settings

/-- A tileset is set up unless the reference of its pyramid is refused, and then
is usable. -/
structure Serves (settings : Settings) (tileset : TilesetSettings) : Prop where
  setUp : ∃ pyramid, settings.pyramid? tileset.grid = some pyramid ∧ ∀ error,
    Tileset.named settings tileset.name = .error error ↔
      SpatialReference.ofText pyramid.srs = .error error
  reference : ∀ error, Tileset.named settings tileset.name = .error error →
    ∃ label fault, error = .spatialReference label fault
  usable : ∀ built, Tileset.named settings tileset.name = .ok built →
    built.settings = tileset ∧ settings.pyramid? tileset.grid = some built.pyramid ∧
      tileset.cache.keyLayout = .ok built.layout ∧ built.IsUsable

theorem IsConsistent.serves {settings : Settings} {tileset : TilesetSettings}
    (consistent : settings.IsConsistent) (member : tileset ∈ settings.tilesets) :
    settings.Serves tileset := by
  have accepted := consistent.accepted tileset member
  obtain ⟨pyramid, found⟩ :=
    Option.isSome_iff_exists.mp (isSome_pyramid?_iff.mpr accepted.pyramid)
  obtain ⟨extent, valid⟩ := SourceSettings.exists_validExtent_iff.mpr accepted.extent
  obtain ⟨layout, laidOut⟩ := CacheSettings.exists_keyLayout_iff.mpr accepted.store
  have named : Tileset.named settings tileset.name =
      (SpatialReference.ofText pyramid.srs).map fun srs => ⟨tileset, pyramid, srs, layout⟩ := by
    unfold Tileset.named Tileset.ofSettings
    rw [tileset?_eq_some consistent.names member]
    simp only [found, laidOut]
    cases SpatialReference.ofText pyramid.srs <;> rfl
  have refused (error : Error) : Tileset.named settings tileset.name = .error error ↔
      SpatialReference.ofText pyramid.srs = .error error := by
    rw [named, map_eq_error_iff]
  refine ⟨⟨pyramid, found, refused⟩, fun error failed => ?_, fun built succeeds => ?_⟩
  · exact SpatialReference.exists_fault_of_ofText ((refused error).mp failed)
  · rw [named] at succeeds
    cases read : SpatialReference.ofText pyramid.srs with
    | error error =>
        rw [read] at succeeds
        cases succeeds
    | ok srs =>
        rw [read] at succeeds
        cases succeeds
        exact ⟨rfl, found, laidOut, Tileset.isUsable_of_validExtent valid⟩

/-- The check succeeds for consistent settings and for no others, and every
tileset of settings that pass it is served. -/
theorem check_isConsistent_and_serves (settings : Settings) :
    (settings.check = .ok () ↔ settings.IsConsistent) ∧
      (settings.check = .ok () → ∀ tileset ∈ settings.tilesets, settings.Serves tileset) := by
  refine ⟨check_eq_ok_iff, ?_⟩
  intro checked tileset member
  exact (check_eq_ok_iff.mp checked).serves member

/-- Images of the whole world, with rows of the keys counted from the bottom. -/
def mirrored : TilesetSettings where
  name := "mirrored"
  grid := "GoogleMapsCompatible"
  format := .json
  elevation := true
  source := ⟨"world.tif", none, some "-180 -85 180 85"⟩
  cache := ⟨.disk, .template, none, some "/tiles/\x7bz\x7d/\x7bx\x7d/\x7binv_y\x7d", 4096⟩
  options := RenderOptions.standard

/-- One tileset on a built-in pyramid. -/
def mirroredOnly : Settings := ⟨[], [mirrored]⟩

/-- The tileset is set up.  At a level that the pyramid does not have it refuses
requests and keys. -/
theorem serves_mirrored :
    mirroredOnly.check = .ok () ∧ ∃ built, Tileset.named mirroredOnly "mirrored" = .ok built ∧
      built.request ⟨"mirrored", built.pyramid.name, 19, 0, 0, []⟩ =
        .error (built.outside 19 0 0) ∧
      built.tileKey ⟨"mirrored", built.pyramid.name, 19, 0, 0, []⟩ =
        .error (.config (.levelOutsideGrid 19 built.pyramid.name)) := by
  have consistent : mirroredOnly.IsConsistent := by
    refine ⟨List.pairwise_singleton _ _, ?_⟩
    intro tileset member
    cases List.mem_singleton.mp member
    refine ⟨⟨Pyramid.webMercator, by simp [Pyramid.builtIn], rfl⟩, ?_, _, rfl, by decide⟩
    intro text given
    cases given
    exact exists_eq_ok (by decide +kernel)
  have checked := (check_isConsistent_and_serves mirroredOnly).1.mpr consistent
  have served := (check_isConsistent_and_serves mirroredOnly).2 checked mirrored
    List.mem_cons_self
  obtain ⟨pyramid, found, refused⟩ := served.setUp
  have isMercator : mirroredOnly.pyramid? mirrored.grid = some Pyramid.webMercator := rfl
  cases Option.some.inj (isMercator.symm.trans found)
  refine ⟨checked, ?_⟩
  cases named : Tileset.named mirroredOnly mirrored.name with
  | error error =>
      obtain ⟨srs, read⟩ : ∃ srs, SpatialReference.ofText "EPSG:3857" = .ok srs :=
        exists_eq_ok (by decide +kernel)
      cases read.symm.trans ((refused error).mp named)
  | ok built =>
      obtain ⟨same, onMercator, laidOut, usable⟩ := served.usable built named
      have noLevel : built.pyramid.levelSize? 19 = none := by
        rw [← Option.some.inj (isMercator.symm.trans onMercator)]
        decide +kernel
      refine ⟨built, named, (usable.request _ _).mpr ⟨?_, rfl⟩, (usable.key _ _).mpr ?_⟩
      · intro held
        obtain ⟨columns, rows, size, -⟩ := held
        cases noLevel.symm.trans size
      · refine ⟨_, (Except.ok.inj laidOut).symm, ?_, noLevel, rfl⟩
        rw [same, ← Option.some.inj (isMercator.symm.trans onMercator)]
        exact .inr ⟨by decide +kernel, by decide +kernel⟩

end Settings

end TileAtlas
