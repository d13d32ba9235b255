import TileAtlas.Session

/-!
Contract: reasoning about calls.

Owns:
- `Call.Ensures`, what a call that starts in one kind of session answers and
  leaves behind;
- `Call.Gives`, a call that answers as a computation without a session does,
  and keeps an invariant of the sessions;
- how these go through the steps that calls are made of, and what the steps on
  a session are.
-/

namespace TileAtlas

namespace Call

variable {β γ : Type}

/-- The second call starts where the first one ends. -/
theorem run_bind (first : Call β) (next : β → Call γ) (session : Session) :
    (first >>= next).run.run session =
      match first.run.run session with
      | (.ok value, reached) => (next value).run.run reached
      | (.error error, reached) => (.error error, reached) := by
  rw [ExceptT.run_bind, StateT.run_bind]
  obtain ⟨answer | answer, reached⟩ := first.run.run session
  · rfl
  · rfl

/-- Started in a session as `before` says, the call ends with an answer and a
session as `after` says. -/
def Ensures (before : Session → Prop) (call : Call β)
    (after : Except Error β → Session → Prop) : Prop :=
  ∀ session, before session → after (call.run.run session).1 (call.run.run session).2

/-- The call gives this answer in every session of the invariant, and leaves
such a session behind. -/
def Gives (invariant : Session → Prop) (call : Call β) (answer : Except Error β) : Prop :=
  Ensures invariant call fun given session => given = answer ∧ invariant session

/-- One call after another: the first one's answer is handed on, its error ends
both. -/
theorem Ensures.bind {first : Call β} {next : β → Call γ} {before : Session → Prop}
    {after : Except Error γ → Session → Prop} (middle : β → Session → Prop)
    (starts : Ensures before first fun answer session =>
      match answer with
      | .ok value => middle value session
      | .error error => after (.error error) session)
    (continues : ∀ value, Ensures (middle value) (next value) after) :
    Ensures before (first >>= next) after := by
  intro session holds
  have reached := starts session holds
  rw [run_bind]
  generalize first.run.run session = firstEnd at reached
  obtain ⟨answer, reachedSession⟩ := firstEnd
  cases answer with
  | ok value => exact continues value reachedSession reached
  | error error => exact reached

variable {invariant : Session → Prop}

theorem gives_ofExcept (result : Except Error β) : Gives invariant (ofExcept result) result :=
  fun _ holds => ⟨rfl, holds⟩

theorem gives_pure (value : β) : Gives invariant (pure value) (.ok value) :=
  fun _ holds => ⟨rfl, holds⟩

/-- A call after a call follows a computation after a computation. -/
theorem Gives.bind {first : Call β} {next : β → Call γ} {result : Except Error β}
    (continuation : β → Except Error γ) (starts : Gives invariant first result)
    (continues : ∀ value, result = .ok value →
      Gives invariant (next value) (continuation value)) :
    Gives invariant (first >>= next) (result >>= continuation) := by
  refine Ensures.bind (fun value session => result = .ok value ∧ invariant session) ?_ ?_
  · intro session holds
    obtain ⟨given, kept⟩ := starts session holds
    rw [given]
    cases result with
    | ok value => exact ⟨rfl, kept⟩
    | error error => exact ⟨rfl, kept⟩
  · rintro value session ⟨rfl, holds⟩
    exact continues value rfl session holds

theorem Gives.andThen {first : Call β} {next : β → Call γ} {value : β} {answer : Except Error γ}
    (starts : Gives invariant first (.ok value)) (continues : Gives invariant (next value) answer) :
    Gives invariant (first >>= next) answer :=
  Gives.bind (fun _ => answer) starts fun _ same => Except.ok.inj same ▸ continues

theorem Gives.stop {first : Call β} {next : β → Call γ} {error : Error}
    (starts : Gives invariant first (.error error)) :
    Gives invariant (first >>= next) (.error error) :=
  Gives.bind (fun _ => .error error) starts fun _ same => nomatch same

end Call

namespace Session

/-! ## What the steps do -/

variable {raster : Dataset Float} {source : RasterSource} {idle : List (Dataset Float)}
  {store : TileStore} {files : FileTree} {events : List SessionEvent}

theorem run_checkOut_cons :
    (checkOut source).run.run ⟨raster :: idle, store, files, events⟩ =
      (.ok raster, ⟨idle, store, files, events⟩) :=
  rfl

theorem run_get_bind {β : Type} (next : Session → Call β) (session : Session) :
    ((get : Call Session) >>= next).run.run session = (next session).run.run session :=
  rfl

theorem run_checkOut_nil :
    (checkOut source).run.run ⟨[], store, files, events⟩ =
      (source files, ⟨[], store, files, events ++ [.opened (source files).isOk]⟩) := by
  unfold checkOut
  rw [run_get_bind]
  dsimp only
  cases source files with
  | ok raster => rfl
  | error error => rfl

theorem run_lookUp_memory {entries : RecencyStore} (key : String) :
    (lookUp key).run.run ⟨idle, .memory entries, files, events⟩ =
      (.ok (entries.get key).1, ⟨idle, .memory (entries.get key).2, files,
        events ++ [if (entries.get key).1.isSome then .hit key else .miss key]⟩) :=
  rfl

theorem run_lookUp_disk (process : Nat) (key : String) :
    (lookUp key).run.run ⟨idle, .disk process, files, events⟩ =
      match DiskStore.get files key with
      | .ok found => (.ok found, ⟨idle, .disk process, files,
          events ++ [if found.isSome then .hit key else .miss key]⟩)
      | .error error => (.error error, ⟨idle, .disk process, files, events⟩) := by
  unfold lookUp
  rw [run_get_bind]
  dsimp only
  cases DiskStore.get files key with
  | ok found => rfl
  | error error => rfl

theorem run_keep_memory {entries : RecencyStore} (key : String) (data : ByteArray) :
    (keep key data).run.run ⟨idle, .memory entries, files, events⟩ =
      (.ok (), ⟨idle, .memory (entries.put key data), files, events ++ [.stored key]⟩) :=
  rfl

theorem run_keep_disk (process : Nat) (key : String) (data : ByteArray) :
    (keep key data).run.run ⟨idle, .disk process, files, events⟩ =
      match DiskStore.put .sound process files key data with
      | (.ok (), written) => (.ok (), ⟨idle, .disk process, written, events ++ [.stored key]⟩)
      | (.error error, written) => (.error error, ⟨idle, .disk process, written, events⟩) := by
  unfold keep
  rw [run_get_bind]
  dsimp only
  rcases DiskStore.put .sound process files key data with ⟨_ | _, written⟩
  · rfl
  · rfl

end Session

end TileAtlas
