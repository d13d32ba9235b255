import TileAtlas.Proofs.Cache.Template
import TileAtlas.Proofs.Sequence
import TileAtlas.Tileset

/-!
Contract: what a tileset refuses.

Owns:
- `Pyramid.HasTile`, the tiles that a pyramid has an extent for;
- `Extent.IsTextFault`, what can be wrong with the extent of a source;
- `Tileset.request_eq_error_iff`: a request fails for a tile outside the pyramid
  and for an extent of the source that cannot be read;
- `Tileset.tileKey_eq_error_iff`: a key fails for a level outside the pyramid.
-/

namespace TileAtlas

namespace Pyramid

variable {α : Type} [Scalar α] {pyramid : Pyramid α} {tile : TileIndex}

/-- The pyramid has the level, and the level has the tile. -/
def HasTile (pyramid : Pyramid α) (tile : TileIndex) : Prop :=
  ∃ columns rows, pyramid.levelSize? tile.z = some (columns, rows) ∧
    tile.x < columns ∧ tile.y < rows

theorem hasTile_iff {columns rows : Nat}
    (size : pyramid.levelSize? tile.z = some (columns, rows)) :
    pyramid.HasTile tile ↔ tile.x < columns ∧ tile.y < rows := by
  unfold HasTile
  rw [size]
  simp [and_assoc]

theorem exists_tileExtent_iff_hasTile :
    (∃ extent, pyramid.tileExtent tile = some extent) ↔ pyramid.HasTile tile := by
  unfold tileExtent
  cases level : pyramid.resolution? tile.z with
  | none =>
      refine iff_of_false (fun ⟨_, located⟩ => nomatch located) ?_
      rintro ⟨_, _, size, _⟩
      rw [levelSize?, level] at size
      cases size
  | some resolution =>
      obtain ⟨columns, rows, size⟩ : ∃ columns rows,
          pyramid.levelSize? tile.z = some (columns, rows) := by
        rw [levelSize?, level]
        exact ⟨_, _, rfl⟩
      rw [hasTile_iff size, size]
      simp only [Option.bind_eq_bind, Option.bind_some]
      by_cases outside : columns ≤ tile.x ∨ rows ≤ tile.y
      · rw [if_pos outside]
        refine iff_of_false (fun ⟨_, located⟩ => nomatch located) ?_
        omega
      · rw [if_neg outside]
        refine iff_of_true ⟨_, rfl⟩ ?_
        omega

theorem tileExtent_eq_none_iff : pyramid.tileExtent tile = none ↔ ¬pyramid.HasTile tile := by
  rw [← exists_tileExtent_iff_hasTile, Option.eq_none_iff_forall_ne_some, not_exists]

end Pyramid

namespace Extent

variable {text : String} {fault : ConfigFault}

/-- What is wrong with the text of an extent: a number, the order of the
numbers or their count. -/
def IsTextFault (text : String) (fault : ConfigFault) : Prop :=
  (∃ reason, fault = .extentLiteral text reason) ∨ fault = .extentOrder text ∨
    ∃ given, fault = .extentCount text given

theorem isTextFault_of_readNumbers (failed : readNumbers text = .error fault) :
    IsTextFault text fault := by
  obtain ⟨word, -, wordFailed⟩ := exists_of_mapM_eq_error _ failed
  cases read : Decimal.readFloat? word with
  | none =>
      rw [read] at wordFailed
      exact .inl ⟨_, (Except.error.inj wordFailed).symm⟩
  | some number =>
      rw [read] at wordFailed
      cases wordFailed

theorem isTextFault_of_ofText (failed : ofText text = .error fault) : IsTextFault text fault := by
  unfold ofText at failed
  split at failed
  next readFault read =>
    cases failed
    exact isTextFault_of_readNumbers read
  next =>
    split at failed
    · exact .inr (.inl (Except.error.inj failed).symm)
    · cases failed
  next => exact .inr (.inr ⟨_, (Except.error.inj failed).symm⟩)

end Extent

namespace SourceSettings

variable {settings : SourceSettings} {error : Error}

theorem validExtent_eq_error_iff : settings.validExtent = .error error ↔
    ∃ text fault, settings.extent = some text ∧ Extent.ofText text = .error fault ∧
      error = .config fault := by
  unfold validExtent
  cases settings.extent with
  | none => simp
  | some text => cases read : Extent.ofText text <;> simp [read, eq_comm]

/-- A faulty extent is never taken for a tile outside the pyramid. -/
theorem validExtent_ne_tileOutsideGrid (z x y : Nat) (grid : String) :
    settings.validExtent ≠ .error (.config (.tileOutsideGrid z x y grid)) := by
  intro failed
  obtain ⟨text, fault, -, read, same⟩ := validExtent_eq_error_iff.mp failed
  cases same
  simpa [Extent.IsTextFault] using Extent.isTextFault_of_ofText read

end SourceSettings

namespace Tileset

variable {tileset : Tileset} {tile : TileCoordinate} {error : Error}

/-- The pyramid of the tileset has the tile. -/
def Holds (tileset : Tileset) (tile : TileCoordinate) : Prop :=
  tileset.pyramid.HasTile ⟨tile.z, tile.x, tile.y⟩

theorem request_eq_error_iff : tileset.request tile = .error error ↔
    (¬tileset.Holds tile ∧ error = tileset.outside tile.z tile.x tile.y) ∨
      (tileset.Holds tile ∧ tileset.settings.source.validExtent = .error error) := by
  unfold request Holds
  simp only
  cases located : tileset.pyramid.tileExtent ⟨tile.z, tile.x, tile.y⟩ with
  | none =>
      have missing := Pyramid.tileExtent_eq_none_iff.mp located
      rw [and_iff_right missing, or_iff_left fun held => missing held.1]
      change Except.error (tileset.outside tile.z tile.x tile.y) = .error error ↔ _
      rw [Except.error.injEq, eq_comm]
  | some extent =>
      have held := Pyramid.exists_tileExtent_iff_hasTile.mp ⟨extent, located⟩
      rw [and_iff_right held, or_iff_right fun missing => missing.1 held]
      change tileset.settings.source.validExtent >>= _ = _ ↔ _
      rw [bind_eq_error_iff]
      exact or_iff_left fun ⟨_, _, failed⟩ => nomatch failed

/-- What is rendered of a source is what its settings say. -/
theorem validExtent_of_request {request : TileRequest}
    (requested : tileset.request tile = .ok request) :
    tileset.settings.source.validExtent = .ok request.validExtent := by
  unfold Tileset.request at requested
  simp only at requested
  cases located : tileset.pyramid.tileExtent ⟨tile.z, tile.x, tile.y⟩ with
  | none =>
      rw [located] at requested
      cases requested
  | some extent =>
      rw [located] at requested
      obtain ⟨valid, read, built⟩ := bind_eq_ok requested
      cases built
      exact read

/-- A key fails where a column or a row is to be counted from the far end of a
level that the pyramid does not have. -/
theorem tileKey_eq_error_iff : tileset.tileKey tile = .error error ↔
    ∃ template, tileset.layout = .template template ∧
      KeyLayout.AsksForLevel (KeyLayout.withNames template tile tileset.settings.format.name) ∧
        tileset.pyramid.levelSize? tile.z = none ∧
          error = .config (.levelOutsideGrid tile.z tileset.pyramid.name) :=
  KeyLayout.key_eq_error_iff

/-- A tile of the pyramid is not refused for its place. -/
theorem request_ne_outside (held : tileset.Holds tile) (z x y : Nat) :
    tileset.request tile ≠ .error (tileset.outside z x y) := by
  intro failed
  cases request_eq_error_iff.mp failed with
  | inl missing => exact missing.1 held
  | inr faulty => exact SourceSettings.validExtent_ne_tileOutsideGrid _ _ _ _ faulty.2

theorem exists_tileKey (held : tileset.Holds tile) : ∃ key, tileset.tileKey tile = .ok key := by
  obtain ⟨columns, rows, size, -⟩ := held
  exact KeyLayout.exists_key tileset.layout size _

end Tileset

end TileAtlas
