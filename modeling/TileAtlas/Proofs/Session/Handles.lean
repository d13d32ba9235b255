import TileAtlas.Proofs.Session.Course

/-!
Contract: open rasters along a run of calls.

Owns:
- `Handle`, an open raster under the number of its opening, and `Ledger`, a
  session in which rasters are handles and every use of one is entered;
- `Ledger.run`, a call that is entered, and `run_eq`: without the ledger it is the
  call;
- `Ledger.IsSound`, the invariant, and `IsLent` while a call works on a handle;
- `Moment`, a call in its surroundings, and `keepsHandles`, what holds along every
  run of them.

## Why numbers

Rasters that were opened one after another may be equal, and a raster that stays
open may come to read differently.  Which opening a raster comes from can be told
neither from what it is nor from what it does.  So each one is numbered, and that a
raster is not used again is said of its number.
-/

namespace TileAtlas

/-- An open raster under the number of its opening. -/
structure Handle where
  number : Nat
  raster : Dataset Float

/-- A handle was used, and its render failed or not. -/
structure HandleUse where
  number : Nat
  failed : Bool

/-- A session whose rasters are handles. -/
structure Ledger where
  /-- Handles that no call uses. -/
  idle : List Handle
  store : TileStore
  files : FileTree
  events : List SessionEvent
  /-- How many rasters have been opened; the number of the next one. -/
  opened : Nat
  /-- The uses of handles, in order. -/
  uses : List HandleUse

namespace Ledger

/-! ## Calls that are entered -/

/-- The session without numbers and uses. -/
def session (ledger : Ledger) : Session :=
  ⟨ledger.idle.map Handle.raster, ledger.store, ledger.files, ledger.events⟩

/-- Nothing has been opened yet. -/
def fresh (store : TileStore) (files : FileTree) : Ledger := ⟨[], store, files, [], 0, []⟩

def numbers (ledger : Ledger) : List Nat := ledger.idle.map Handle.number

/-- How many renders failed. -/
def failures (ledger : Ledger) : Nat := ledger.uses.countP (·.failed)

def enter (ledger : Ledger) (use : HandleUse) : Ledger :=
  { ledger with uses := ledger.uses ++ [use] }

def checkOut (ledger : Ledger) (source : RasterSource) : Except Error Handle × Ledger :=
  match ledger.idle with
  | handle :: rest => (.ok handle, { ledger with idle := rest })
  | [] =>
      match source ledger.files with
      | .ok raster =>
          (.ok ⟨ledger.opened, raster⟩, { ledger with
            events := ledger.events ++ [.opened true]
            opened := ledger.opened + 1 })
      | .error error => (.error error, { ledger with events := ledger.events ++ [.opened false] })

def checkIn (ledger : Ledger) (handle : Handle) : Ledger :=
  if ledger.idle.length < Session.mostIdle then { ledger with idle := handle :: ledger.idle }
  else ledger

/-- A call that leaves the open rasters alone. -/
def aside {β : Type} (ledger : Ledger) (call : Call β) : Except Error β × Ledger :=
  let ended := call.run.run ledger.session
  (ended.1, { ledger with
    store := ended.2.store
    files := ended.2.files
    events := ended.2.events })

/-- The handle is given back only if its render succeeds. -/
def render [Allocator] (ledger : Ledger) (tileset : Tileset) (source : RasterSource)
    (tile : TileCoordinate) : Except Error (RasterTile Float) × Ledger :=
  match tileset.request tile with
  | .error error => (.error error, ledger)
  | .ok request =>
      match ledger.checkOut source with
      | (.error error, asked) => (.error error, asked)
      | (.ok handle, lent) =>
          match request.render handle.raster tileset.settings.options with
          | .error error => (.error error, lent.enter ⟨handle.number, true⟩)
          | .ok rendered => (.ok rendered, (lent.enter ⟨handle.number, false⟩).checkIn handle)

def describe (ledger : Ledger) (tileset : Tileset) (source : RasterSource) :
    Except Error Unit × Ledger :=
  match ledger.checkOut source with
  | (.error error, asked) => (.error error, asked)
  | (.ok handle, lent) =>
      ((tileset.footprint handle.raster.info).map fun _ => (),
        (lent.enter ⟨handle.number, false⟩).checkIn handle)

def meet [Allocator] (ledger : Ledger) (tileset : Tileset) (source : RasterSource) :
    Demand → Except Error Unit × Ledger
  | .nothing => (.ok (), ledger)
  | .tile tile key =>
      match ledger.render tileset source tile with
      | (.error error, ended) => (.error error, ended)
      | (.ok rendered, given) => given.aside (tileset.conclude rendered key)
  | .description => ledger.describe tileset source

/-- A call of a client, entered into the ledger. -/
def run [Allocator] (ledger : Ledger) (tileset : Tileset) (source : RasterSource)
    (call : ClientCall) : Except Error Unit × Ledger :=
  match ledger.aside (tileset.prepare call) with
  | (.error error, ended) => (.error error, ended)
  | (.ok demand, prepared) => prepared.meet tileset source demand

/-! ## Without the ledger -/

variable {tileset : Tileset} {source : RasterSource}

theorem checkOut_eq (ledger : Ledger) (source : RasterSource) :
    (Session.checkOut source).run.run ledger.session =
      ((ledger.checkOut source).1.map Handle.raster, (ledger.checkOut source).2.session) := by
  obtain ⟨idle, store, files, events, opened, uses⟩ := ledger
  cases idle with
  | cons handle rest => exact Session.run_checkOut_cons
  | nil =>
      refine Session.run_checkOut_nil.trans ?_
      unfold checkOut
      dsimp only
      cases source files with
      | ok raster => rfl
      | error error => rfl

theorem checkIn_eq (ledger : Ledger) (handle : Handle) :
    ((Session.checkIn handle.raster).run.run ledger.session).2 =
      (ledger.checkIn handle).session := by
  show (if ledger.session.idle.length < Session.mostIdle then _ else ledger.session) = _
  unfold checkIn
  rw [show ledger.session.idle.length = ledger.idle.length from List.length_map _]
  split
  · rfl
  · rfl

theorem aside_eq {β : Type} {ledger : Ledger} {call : Call β}
    (idle_eq : (call.run.run ledger.session).2.idle = ledger.session.idle) :
    call.run.run ledger.session = ((ledger.aside call).1, (ledger.aside call).2.session) := by
  unfold aside session at *
  generalize call.run.run _ = ended at *
  obtain ⟨answer, idle, store, files, events⟩ := ended
  cases idle_eq
  rfl

theorem render_eq [Allocator] (ledger : Ledger) (tile : TileCoordinate) :
    (tileset.render source tile).run.run ledger.session =
      ((ledger.render tileset source tile).1, (ledger.render tileset source tile).2.session) := by
  rw [Tileset.run_render, checkOut_eq]
  unfold render
  cases tileset.request tile with
  | error error => rfl
  | ok request =>
      dsimp only
      obtain ⟨error | handle, lent⟩ := ledger.checkOut source
      · rfl
      · dsimp only [Except.map]
        cases request.render handle.raster tileset.settings.options with
        | error error => rfl
        | ok rendered =>
            exact Prod.ext rfl (checkIn_eq (lent.enter ⟨handle.number, false⟩) handle)

theorem meet_eq [Allocator] (ledger : Ledger) (demand : Demand) :
    (tileset.meet source demand).run.run ledger.session =
      ((ledger.meet tileset source demand).1, (ledger.meet tileset source demand).2.session) := by
  cases demand with
  | nothing => rfl
  | tile tile key =>
      rw [Tileset.run_meet_tile, render_eq]
      unfold meet
      dsimp only
      obtain ⟨error | rendered, given⟩ := ledger.render tileset source tile
      · rfl
      · exact aside_eq (tileset.conclude_concludes given.session rendered key).idle_eq
  | description =>
      rw [Tileset.run_meet_description, checkOut_eq]
      unfold meet describe
      dsimp only
      obtain ⟨error | handle, lent⟩ := ledger.checkOut source
      · rfl
      · exact Prod.ext rfl (checkIn_eq (lent.enter ⟨handle.number, false⟩) handle)

/-- Apart from the ledger, a call that is entered is the call. -/
theorem run_eq [Allocator] (ledger : Ledger) (call : ClientCall) :
    (call.run tileset source).run.run ledger.session =
      ((ledger.run tileset source call).1, (ledger.run tileset source call).2.session) := by
  rw [Tileset.run_eq_meet, Call.run_bind,
    aside_eq (tileset.prepare_prepares ledger.session call).idle_eq]
  unfold run
  obtain ⟨error | demand, prepared⟩ := ledger.aside (tileset.prepare call)
  · rfl
  · exact prepared.meet_eq demand

/-! ## The invariant -/

/-- Between calls, every handle that was opened is idle, or its render failed;
and no handle is used behind its failure. -/
structure IsSound (ledger : Ledger) : Prop where
  length_le : ledger.numbers.length ≤ 1
  opened_eq : ledger.opened = ledger.failures + ledger.numbers.length
  count_eq : ledger.events.count (.opened true) = ledger.opened
  idle_lt : ∀ number ∈ ledger.numbers, number < ledger.opened
  uses_lt : ∀ use ∈ ledger.uses, use.number < ledger.opened
  idle_whole : ∀ use ∈ ledger.uses, use.failed = true → use.number ∉ ledger.numbers
  neverAgain : ledger.uses.Pairwise fun earlier later =>
    earlier.failed = true → later.number ≠ earlier.number

/-- A call works on the handle: back in the ledger it would be sound. -/
structure IsLent (ledger : Ledger) (handle : Handle) : Prop where
  idle_eq : ledger.idle = []
  isSound : { ledger with idle := [handle] : Ledger }.IsSound

theorem isSound_fresh (store : TileStore) (files : FileTree) : (fresh store files).IsSound where
  length_le := Nat.zero_le 1
  opened_eq := rfl
  count_eq := rfl
  idle_lt _ member := nomatch member
  uses_lt _ member := nomatch member
  idle_whole _ member := nomatch member
  neverAgain := List.Pairwise.nil

/-- Only numbers, uses and the count of openings matter. -/
theorem IsSound.of_same {ledger other : Ledger} (sound : ledger.IsSound)
    (numbers_eq : other.numbers = ledger.numbers) (opened_eq : other.opened = ledger.opened)
    (uses_eq : other.uses = ledger.uses)
    (count_eq : other.events.count (.opened true) = ledger.events.count (.opened true)) :
    other.IsSound where
  length_le := numbers_eq ▸ sound.length_le
  opened_eq := by
    rw [opened_eq, numbers_eq, failures, uses_eq]
    exact sound.opened_eq
  count_eq := by rw [count_eq, opened_eq, sound.count_eq]
  idle_lt := by
    rw [numbers_eq, opened_eq]
    exact sound.idle_lt
  uses_lt := by
    rw [uses_eq, opened_eq]
    exact sound.uses_lt
  idle_whole := by
    rw [uses_eq, numbers_eq]
    exact sound.idle_whole
  neverAgain := uses_eq ▸ sound.neverAgain

/-- What does not open a raster does not change the count. -/
theorem count_of_opensNothing {start ended : Session}
    (opensNothing : start.Adds (fun event => ¬event.IsOpening) ended) :
    ended.events.count (.opened true) = start.events.count (.opened true) := by
  obtain ⟨added, isAdded, noOpening⟩ := opensNothing
  have absent : SessionEvent.opened true ∉ added := fun member => noOpening _ member trivial
  rw [isAdded, List.count_append, List.count_eq_zero.mpr absent, Nat.add_zero]

theorem IsSound.aside {ledger : Ledger} {β : Type} {call : Call β} (sound : ledger.IsSound)
    (opensNothing : ledger.session.Adds (fun event => ¬event.IsOpening)
      (call.run.run ledger.session).2) : (ledger.aside call).2.IsSound :=
  sound.of_same rfl rfl rfl (count_of_opensNothing opensNothing)

/-- A handle that is checked out is the only one there is. -/
theorem IsSound.checkOut {ledger : Ledger} (sound : ledger.IsSound) (source : RasterSource) :
    match ledger.checkOut source with
    | (.ok handle, lent) => lent.IsLent handle
    | (.error _, asked) => asked.IsSound := by
  obtain ⟨idle, store, files, events, opened, uses⟩ := ledger
  cases idle with
  | cons handle rest =>
      have alone : rest = [] := by
        have length_le := sound.length_le
        simpa [numbers] using length_le
      subst alone
      exact ⟨rfl, sound⟩
  | nil =>
      unfold Ledger.checkOut
      dsimp only
      cases source files with
      | error error => exact sound.of_same rfl rfl rfl (by simp)
      | ok raster =>
          refine ⟨rfl, ?_⟩
          have opened_eq := sound.opened_eq
          have count_eq := sound.count_eq
          have uses_lt := sound.uses_lt
          simp only [numbers, failures, List.map_nil, List.length_nil, Nat.add_zero] at *
          constructor
          · simp [numbers]
          · simp [numbers, failures, ← opened_eq]
          · simp [count_eq]
          · simp [numbers]
          · exact fun use member => Nat.lt_succ_of_lt (uses_lt use member)
          · intro use member _
            simpa [numbers] using Nat.ne_of_lt (uses_lt use member)
          · exact sound.neverAgain

/-- A use of the lent handle comes behind no failure of it. -/
theorem IsLent.pairwise_enter {ledger : Ledger} {handle : Handle} (lent : ledger.IsLent handle)
    (failed : Bool) : (ledger.enter ⟨handle.number, failed⟩).uses.Pairwise fun earlier later =>
      earlier.failed = true → later.number ≠ earlier.number := by
  refine List.pairwise_append.mpr ⟨lent.isSound.neverAgain, List.pairwise_singleton _ _, ?_⟩
  intro earlier member later isNew hasFailed
  rw [List.mem_singleton.mp isNew]
  have other := lent.isSound.idle_whole earlier member hasFailed
  simpa [numbers, eq_comm] using other

theorem IsLent.uses_lt {ledger : Ledger} {handle : Handle} (lent : ledger.IsLent handle)
    (failed : Bool) :
    ∀ use ∈ (ledger.enter ⟨handle.number, failed⟩).uses, use.number < ledger.opened := by
  intro use member
  rcases List.mem_append.mp member with earlier | isNew
  · exact lent.isSound.uses_lt use earlier
  · rw [List.mem_singleton.mp isNew]
    exact lent.isSound.idle_lt handle.number (by simp [numbers])

theorem IsLent.enter_success {ledger : Ledger} {handle : Handle} (lent : ledger.IsLent handle) :
    (ledger.enter ⟨handle.number, false⟩).IsLent handle where
  idle_eq := lent.idle_eq
  isSound := {
    length_le := lent.isSound.length_le
    opened_eq := by
      have opened_eq := lent.isSound.opened_eq
      simpa [failures, enter, numbers] using opened_eq
    count_eq := lent.isSound.count_eq
    idle_lt := lent.isSound.idle_lt
    uses_lt := lent.uses_lt false
    idle_whole := by
      intro use member hasFailed
      rcases List.mem_append.mp member with earlier | isNew
      · exact lent.isSound.idle_whole use earlier hasFailed
      · rw [List.mem_singleton.mp isNew] at hasFailed
        cases hasFailed
    neverAgain := lent.pairwise_enter false }

/-- A handle whose render fails is given up. -/
theorem IsLent.enter_failure {ledger : Ledger} {handle : Handle} (lent : ledger.IsLent handle) :
    (ledger.enter ⟨handle.number, true⟩).IsSound where
  length_le := by simp [numbers, enter, lent.idle_eq]
  opened_eq := by
    have opened_eq := lent.isSound.opened_eq
    simpa [failures, enter, numbers, lent.idle_eq] using opened_eq
  count_eq := lent.isSound.count_eq
  idle_lt := by simp [numbers, enter, lent.idle_eq]
  uses_lt := lent.uses_lt true
  idle_whole := by simp [numbers, enter, lent.idle_eq]
  neverAgain := lent.pairwise_enter true

theorem IsLent.checkIn {ledger : Ledger} {handle : Handle} (lent : ledger.IsLent handle) :
    (ledger.checkIn handle).IsSound := by
  have isRoom : ledger.idle.length < Session.mostIdle := by
    rw [lent.idle_eq]
    decide
  unfold Ledger.checkIn
  rw [if_pos isRoom, lent.idle_eq]
  exact lent.isSound

/-! ## Calls keep the invariant -/

theorem IsSound.render [Allocator] {ledger : Ledger} (sound : ledger.IsSound)
    (tile : TileCoordinate) : (ledger.render tileset source tile).2.IsSound := by
  unfold Ledger.render
  cases tileset.request tile with
  | error error => exact sound
  | ok request =>
      have asked := sound.checkOut source
      dsimp only
      generalize ledger.checkOut source = asking at asked ⊢
      obtain ⟨error | handle, lent⟩ := asking
      · exact asked
      · dsimp only at asked ⊢
        cases request.render handle.raster tileset.settings.options with
        | error error => exact asked.enter_failure
        | ok rendered => exact asked.enter_success.checkIn

theorem IsSound.describe {ledger : Ledger} (sound : ledger.IsSound) :
    (ledger.describe tileset source).2.IsSound := by
  have asked := sound.checkOut source
  unfold Ledger.describe
  generalize ledger.checkOut source = asking at asked ⊢
  obtain ⟨error | handle, lent⟩ := asking
  · exact asked
  · exact asked.enter_success.checkIn

theorem IsSound.meet [Allocator] {ledger : Ledger} (sound : ledger.IsSound) (demand : Demand) :
    (ledger.meet tileset source demand).2.IsSound := by
  cases demand with
  | nothing => exact sound
  | description => exact sound.describe
  | tile tile key =>
      have rendered : (ledger.render tileset source tile).2.IsSound := sound.render tile
      unfold Ledger.meet
      dsimp only
      generalize ledger.render tileset source tile = rendering at rendered ⊢
      obtain ⟨error | rasterTile, given⟩ := rendering
      · exact rendered
      · have concluded := tileset.conclude_concludes given.session rasterTile key
        exact rendered.aside (concluded.quiet.mono fun _ quiet => quiet.1)

theorem IsSound.run [Allocator] {ledger : Ledger} (sound : ledger.IsSound) (call : ClientCall) :
    (ledger.run tileset source call).2.IsSound := by
  have prepared : (ledger.aside (tileset.prepare call)).2.IsSound :=
    sound.aside (tileset.prepare_prepares ledger.session call).opensNothing
  unfold Ledger.run
  generalize ledger.aside (tileset.prepare call) = preparing at prepared ⊢
  obtain ⟨error | demand, reached⟩ := preparing
  · exact prepared
  · exact prepared.meet demand

end Ledger

/-! ## Runs -/

/-- A call in its surroundings. -/
structure Moment where
  call : ClientCall
  /-- What an opening would give now. -/
  source : RasterSource
  /-- What others have made of the files since the last call. -/
  files : FileTree → FileTree
  /-- How a raster that stayed open behaves now. -/
  raster : Dataset Float → Dataset Float

namespace Moment

/-- The session as the call finds it. -/
def finds (moment : Moment) (session : Session) : Session :=
  { session with
    idle := session.idle.map moment.raster
    files := moment.files session.files }

def run [Allocator] (moment : Moment) (tileset : Tileset) (session : Session) :
    Except Error Unit × Session :=
  (moment.call.run tileset moment.source).run.run (moment.finds session)

def findsLedger (moment : Moment) (ledger : Ledger) : Ledger :=
  { ledger with
    idle := ledger.idle.map fun handle => { handle with raster := moment.raster handle.raster }
    files := moment.files ledger.files }

def runLedger [Allocator] (moment : Moment) (tileset : Tileset) (ledger : Ledger) :
    Except Error Unit × Ledger :=
  (moment.findsLedger ledger).run tileset moment.source moment.call

variable {tileset : Tileset}

theorem finds_session (moment : Moment) (ledger : Ledger) :
    moment.finds ledger.session = (moment.findsLedger ledger).session := by
  simp [finds, findsLedger, Ledger.session]

theorem run_session [Allocator] (moment : Moment) (ledger : Ledger) :
    (moment.run tileset ledger.session).2 = (moment.runLedger tileset ledger).2.session := by
  rw [run, finds_session, Ledger.run_eq]
  rfl

theorem isSound_runLedger [Allocator] (moment : Moment) {ledger : Ledger} (sound : ledger.IsSound) :
    (moment.runLedger tileset ledger).2.IsSound := by
  have found : (moment.findsLedger ledger).IsSound :=
    sound.of_same (by simp [Ledger.numbers, findsLedger]) rfl rfl rfl
  exact found.run moment.call

end Moment

namespace Tileset

/-- The session after calls that were made one after another. -/
def sessionAfter [Allocator] (tileset : Tileset) (session : Session) (moments : List Moment) :
    Session :=
  moments.foldl (fun session moment => (moment.run tileset session).2) session

/-- The ledger of the same calls. -/
def ledgerAfter [Allocator] (tileset : Tileset) (ledger : Ledger) (moments : List Moment) :
    Ledger :=
  moments.foldl (fun ledger moment => (moment.runLedger tileset ledger).2) ledger

theorem sessionAfter_session [Allocator] (tileset : Tileset) (ledger : Ledger)
    (moments : List Moment) :
    tileset.sessionAfter ledger.session moments = (tileset.ledgerAfter ledger moments).session := by
  induction moments generalizing ledger with
  | nil => rfl
  | cons moment rest inductionHypothesis =>
      show tileset.sessionAfter (moment.run tileset ledger.session).2 rest = _
      rw [moment.run_session]
      exact inductionHypothesis _

theorem isSound_ledgerAfter [Allocator] (tileset : Tileset) {ledger : Ledger}
    (sound : ledger.IsSound) (moments : List Moment) : (tileset.ledgerAfter ledger moments).IsSound := by
  induction moments generalizing ledger with
  | nil => exact sound
  | cons moment rest inductionHypothesis =>
      exact inductionHypothesis (moment.isSound_runLedger sound)

end Tileset

/-- What is seen of handles between calls, where the ledger of the calls so far is
this one. -/
structure Session.KeepsHandles (session : Session) (ledger : Ledger) : Prop where
  /-- The ledger tells about this session. -/
  session_eq : ledger.session = session
  /-- No more than one raster is idle. -/
  length_le : session.idle.length ≤ 1
  /-- Openings that succeeded exceed renders that failed by one at most. -/
  opened_le : session.events.count (.opened true) ≤ ledger.failures + 1
  /-- A handle on which a render failed is not used again. -/
  neverAgain : ledger.uses.Pairwise fun earlier later =>
    earlier.failed = true → later.number ≠ earlier.number

theorem Tileset.keepsHandles [Allocator] (tileset : Tileset) (store : TileStore) (files : FileTree)
    (moments : List Moment) :
    let session := tileset.sessionAfter ⟨[], store, files, []⟩ moments
    session.KeepsHandles (tileset.ledgerAfter (.fresh store files) moments) ∧
      ∀ moment : Moment, (moment.finds session).Obeys (moment.run tileset session).1
        (moment.run tileset session).2 := by
  intro session
  have sameSession : session = (tileset.ledgerAfter (.fresh store files) moments).session :=
    tileset.sessionAfter_session (.fresh store files) moments
  have sound : (tileset.ledgerAfter (.fresh store files) moments).IsSound :=
    tileset.isSound_ledgerAfter (Ledger.isSound_fresh store files) moments
  refine ⟨?_, fun moment => tileset.run_obeys moment.source _ moment.call⟩
  rw [sameSession]
  generalize tileset.ledgerAfter (.fresh store files) moments = ledger at sound
  have length_le : ledger.idle.length ≤ 1 := by
    simpa [Ledger.numbers] using sound.length_le
  constructor
  · rfl
  · simpa [Ledger.session] using length_le
  · have opened_eq := sound.opened_eq
    have count_eq := sound.count_eq
    have numbers_le := sound.length_le
    show ledger.events.count (.opened true) ≤ ledger.failures + 1
    omega
  · exact sound.neverAgain

end TileAtlas
