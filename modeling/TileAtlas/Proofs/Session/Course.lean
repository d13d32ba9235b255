import TileAtlas.Proofs.Cache.Recency
import TileAtlas.Proofs.Session.Demand

/-!
Contract: what calls do to a session.

Owns:
- `Session.Adds`, the events of a call;
- `Prepares`, `Works` and `Concludes`, what a call may do before it has a raster,
  at the raster and behind it;
- `run_obeys`, what every call keeps to: it opens a raster only where none is
  open and never beside a hit, and a failure leaves the store as it is.
-/

namespace TileAtlas

/-! ## Events -/

namespace SessionEvent

/-- An attempt to open a raster, whether it succeeds or not. -/
def IsOpening : SessionEvent → Prop
  | .opened _ => True
  | _ => False

/-- Stored bytes were found. -/
def IsHit : SessionEvent → Prop
  | .hit _ => True
  | _ => False

def IsQuiet (event : SessionEvent) : Prop := ¬event.IsOpening ∧ ¬event.IsHit

theorem isQuiet_miss (key : String) : (miss key).IsQuiet := ⟨not_false, not_false⟩

theorem isQuiet_stored (key : String) : (stored key).IsQuiet := ⟨not_false, not_false⟩

end SessionEvent

namespace Session

/-- Events are added behind the others, and only such as are allowed. -/
def Adds (allowed : SessionEvent → Prop) (start ended : Session) : Prop :=
  ∃ added, ended.events = start.events ++ added ∧ ∀ event ∈ added, allowed event

section Adds

variable {allowed other : SessionEvent → Prop} {start middle ended : Session}

theorem adds_none (same : ended.events = start.events) : start.Adds allowed ended :=
  ⟨[], by rw [same, List.append_nil], fun _ member => nomatch member⟩

theorem adds_one {event : SessionEvent} (noted : ended.events = start.events ++ [event])
    (isAllowed : allowed event) : start.Adds allowed ended :=
  ⟨[event], noted, fun _ member => List.mem_singleton.mp member ▸ isAllowed⟩

theorem Adds.trans (first : start.Adds allowed middle) (second : middle.Adds allowed ended) :
    start.Adds allowed ended := by
  obtain ⟨earlier, earlierAdded, earlierAllowed⟩ := first
  obtain ⟨later, laterAdded, laterAllowed⟩ := second
  refine ⟨earlier ++ later, by rw [laterAdded, earlierAdded, List.append_assoc], ?_⟩
  intro event member
  exact (List.mem_append.mp member).elim (earlierAllowed event) (laterAllowed event)

theorem Adds.mono (adds : start.Adds allowed ended)
    (weaker : ∀ event, allowed event → other event) : start.Adds other ended := by
  obtain ⟨added, isAdded, areAllowed⟩ := adds
  exact ⟨added, isAdded, fun event member => weaker event (areAllowed event member)⟩

end Adds

/-! ## Before and behind the rasters -/

/-- The open rasters are left alone; and unless something was found, the store
stays as it is and nothing of note happens. -/
structure Prepares (start : Session) (found : Prop) (ended : Session) : Prop where
  idle_eq : ended.idle = start.idle
  opensNothing : start.Adds (fun event => ¬event.IsOpening) ended
  store_eq : ¬found → ended.store = start.store
  quiet : ¬found → start.Adds SessionEvent.IsQuiet ended

/-- The open rasters are left alone, and a failure leaves the store as it is. -/
structure Concludes (start : Session) (answer : Except Error Unit) (ended : Session) : Prop where
  idle_eq : ended.idle = start.idle
  quiet : start.Adds SessionEvent.IsQuiet ended
  store_eq : ∀ error, answer = .error error → ended.store = start.store

theorem Prepares.mono {start ended : Session} {found other : Prop}
    (prepares : start.Prepares found ended) (weaker : found → other) :
    start.Prepares other ended where
  idle_eq := prepares.idle_eq
  opensNothing := prepares.opensNothing
  store_eq notFound := prepares.store_eq (mt weaker notFound)
  quiet notFound := prepares.quiet (mt weaker notFound)

theorem prepares_self (start : Session) (found : Prop) : start.Prepares found start where
  idle_eq := rfl
  opensNothing := adds_none rfl
  store_eq _ := rfl
  quiet _ := adds_none rfl

theorem prepares_of_miss {start ended : Session} {found : Prop} {key : String}
    (missed : ended = { start with events := start.events ++ [.miss key] }) :
    start.Prepares found ended where
  idle_eq := by rw [missed]
  opensNothing := adds_one (by rw [missed]) (SessionEvent.isQuiet_miss key).1
  store_eq _ := by rw [missed]
  quiet _ := adds_one (by rw [missed]) (SessionEvent.isQuiet_miss key)

theorem prepares_of_hit {start ended : Session} {found : Prop} {key : String} (isFound : found)
    (idle_eq : ended.idle = start.idle) (noted : ended.events = start.events ++ [.hit key]) :
    start.Prepares found ended where
  idle_eq := idle_eq
  opensNothing := adds_one noted not_false
  store_eq notFound := absurd isFound notFound
  quiet notFound := absurd isFound notFound

theorem lookUp_prepares (start : Session) (key : String) :
    start.Prepares (∃ bytes, ((lookUp key).run.run start).1 = .ok (some bytes))
      ((lookUp key).run.run start).2 := by
  obtain ⟨idle, store, files, events⟩ := start
  cases store with
  | memory entries =>
      rw [run_lookUp_memory]
      cases found : entries.find? key with
      | none =>
          have missed : entries.get key = (none, entries) := by rw [RecencyStore.get, found]
          rw [missed]
          exact prepares_of_miss rfl
      | some bytes =>
          have isFound : (entries.get key).1 = some bytes := by
            rw [RecencyStore.get_eq_find?, found]
          rw [isFound]
          exact prepares_of_hit ⟨bytes, rfl⟩ rfl rfl
  | disk process =>
      rw [run_lookUp_disk]
      cases DiskStore.get files key with
      | error error => exact prepares_self _ _
      | ok found =>
          cases found with
          | none => exact prepares_of_miss rfl
          | some bytes => exact prepares_of_hit ⟨bytes, rfl⟩ rfl rfl

theorem concludes_self (start : Session) (answer : Except Error Unit) :
    start.Concludes answer start where
  idle_eq := rfl
  quiet := adds_none rfl
  store_eq _ _ := rfl

theorem keep_concludes (start : Session) (key : String) (data : ByteArray) :
    start.Concludes ((keep key data).run.run start).1 ((keep key data).run.run start).2 := by
  obtain ⟨idle, store, files, events⟩ := start
  have isQuiet := SessionEvent.isQuiet_stored key
  cases store with
  | memory entries =>
      rw [run_keep_memory]
      exact ⟨rfl, adds_one rfl isQuiet, fun _ failed => nomatch failed⟩
  | disk process =>
      rw [run_keep_disk]
      obtain ⟨written | written, tree⟩ := DiskStore.put .sound process files key data
      · exact ⟨rfl, adds_none rfl, fun _ _ => rfl⟩
      · exact ⟨rfl, adds_one rfl isQuiet, fun _ failed => nomatch failed⟩

end Session

namespace Tileset

theorem prepareTile_prepares (tileset : Tileset) (start : Session) (tile : TileCoordinate) :
    start.Prepares (((tileset.prepareTile tile).run.run start).1 = .ok .nothing)
      ((tileset.prepareTile tile).run.run start).2 := by
  unfold prepareTile
  cases tileset.tileKey tile with
  | error error => exact Session.prepares_self _ _
  | ok key =>
      show start.Prepares
        (((Session.lookUp key >>= _ : Call Demand).run.run start).1 = .ok .nothing)
        ((Session.lookUp key >>= _ : Call Demand).run.run start).2
      rw [Call.run_bind]
      have looked := Session.lookUp_prepares start key
      generalize (Session.lookUp key).run.run start = ended at looked
      obtain ⟨answer, ended⟩ := ended
      cases answer with
      | error error => exact looked.mono fun ⟨_, isFound⟩ => nomatch isFound
      | ok found =>
          cases found with
          | none => exact looked.mono fun ⟨_, isFound⟩ => nomatch isFound
          | some bytes => exact looked.mono fun _ => rfl

theorem prepare_prepares (tileset : Tileset) (start : Session) (call : ClientCall) :
    start.Prepares (((tileset.prepare call).run.run start).1 = .ok .nothing)
      ((tileset.prepare call).run.run start).2 := by
  cases call with
  | getTile tile => exact tileset.prepareTile_prepares start tile
  | seed tile =>
      rw [prepare]
      cases tileset.tileKey tile with
      | error error => exact Session.prepares_self _ _
      | ok key => exact Session.prepares_self _ _
  | serve address =>
      rw [prepare]
      cases tileset.resolve address with
      | error error => exact Session.prepares_self _ _
      | ok tile => exact tileset.prepareTile_prepares start tile
  | render tile => exact Session.prepares_self _ _
  | layerSettings => exact Session.prepares_self _ _

theorem conclude_concludes (tileset : Tileset) (start : Session) (rendered : RasterTile Float)
    (key : Option String) :
    start.Concludes ((tileset.conclude rendered key).run.run start).1
      ((tileset.conclude rendered key).run.run start).2 := by
  cases key with
  | none => exact Session.concludes_self _ _
  | some key =>
      rw [conclude]
      cases tileset.settings.format.encode rendered with
      | error error => exact Session.concludes_self _ _
      | ok bytes => exact Session.keep_concludes start key bytes

end Tileset

/-! ## At a raster -/

namespace Session

/-- The store is not touched, nothing is taken out of it, and a raster is opened
only where none was open. -/
structure Works (start ended : Session) : Prop where
  store_eq : ended.store = start.store
  adds : start.Adds (fun event => ¬event.IsHit ∧ (event.IsOpening → start.idle = [])) ended

theorem works_self (start : Session) : start.Works start := ⟨rfl, adds_none rfl⟩

theorem checkOut_works (start : Session) (source : RasterSource) :
    start.Works ((checkOut source).run.run start).2 := by
  obtain ⟨idle, store, files, events⟩ := start
  cases idle with
  | nil =>
      rw [run_checkOut_nil]
      exact ⟨rfl, adds_one rfl ⟨not_false, fun _ => rfl⟩⟩
  | cons raster rest =>
      rw [run_checkOut_cons]
      exact ⟨rfl, adds_none rfl⟩

theorem Works.checkIn {start lent : Session} (works : start.Works lent) (raster : Dataset Float) :
    start.Works ((checkIn raster).run.run lent).2 := by
  show start.Works (if lent.idle.length < mostIdle then _ else lent)
  split
  · exact ⟨works.store_eq, works.adds⟩
  · exact works

end Session

namespace Tileset

theorem render_works [Allocator] (tileset : Tileset) (source : RasterSource) (start : Session)
    (tile : TileCoordinate) :
    start.Works ((tileset.render source tile).run.run start).2 := by
  rw [run_render]
  cases tileset.request tile with
  | error error => exact Session.works_self start
  | ok request =>
      have asked := Session.checkOut_works start source
      generalize (Session.checkOut source).run.run start = ended at asked ⊢
      obtain ⟨error | raster, lent⟩ := ended
      · exact asked
      · dsimp only
        cases request.render raster tileset.settings.options with
        | error error => exact asked
        | ok rendered => exact asked.checkIn raster

end Tileset

/-! ## Calls as a whole -/

/-- What every call keeps to. -/
structure Session.Obeys (start : Session) (answer : Except Error Unit) (ended : Session) : Prop
    where
  /-- Openings happen only where no raster is open, and never beside a hit. -/
  opens : ∃ added, ended.events = start.events ++ added ∧
    (∀ event ∈ added, event.IsOpening → start.idle = []) ∧
      ((∃ event ∈ added, event.IsHit) → ∀ event ∈ added, ¬event.IsOpening)
  /-- A failure leaves the store as it is; in memory, all its entries and their order. -/
  store_eq : ∀ error, answer = .error error → ended.store = start.store

namespace Session

variable {start ended : Session} {answer : Except Error Unit}

theorem obeys_of_opensNothing (adds : start.Adds (fun event => ¬event.IsOpening) ended)
    (store_eq : ∀ error, answer = .error error → ended.store = start.store) :
    start.Obeys answer ended where
  opens := by
    obtain ⟨added, isAdded, noOpening⟩ := adds
    exact ⟨added, isAdded, fun event member opening => absurd opening (noOpening event member),
      fun _ => noOpening⟩
  store_eq := store_eq

theorem obeys_of_noHit
    (adds : start.Adds (fun event => ¬event.IsHit ∧ (event.IsOpening → start.idle = [])) ended)
    (store_eq : ∀ error, answer = .error error → ended.store = start.store) :
    start.Obeys answer ended where
  opens := by
    obtain ⟨added, isAdded, allowed⟩ := adds
    exact ⟨added, isAdded, fun event member => (allowed event member).2,
      fun ⟨event, member, isHit⟩ => absurd isHit (allowed event member).1⟩
  store_eq := store_eq

end Session

namespace Tileset

/-- What meeting a demand keeps to. -/
theorem meet_works [Allocator] (tileset : Tileset) (source : RasterSource) (start : Session)
    (demand : Demand) :
    let ended := (tileset.meet source demand).run.run start
    start.Adds (fun event => ¬event.IsHit ∧ (event.IsOpening → start.idle = [])) ended.2 ∧
      ∀ error, ended.1 = .error error → ended.2.store = start.store := by
  intro ended
  cases demand with
  | nothing => exact ⟨Session.adds_none rfl, fun _ _ => rfl⟩
  | description =>
      have works : start.Works ended.2 := by
        have asked := Session.checkOut_works start source
        unfold ended
        rw [run_meet_description]
        generalize (Session.checkOut source).run.run start = asking at asked ⊢
        obtain ⟨error | raster, lent⟩ := asking
        · exact asked
        · exact asked.checkIn raster
      exact ⟨works.adds, fun _ _ => works.store_eq⟩
  | tile tile key =>
      have works := tileset.render_works source start tile
      unfold ended
      rw [run_meet_tile]
      generalize (tileset.render source tile).run.run start = rendering at works ⊢
      obtain ⟨error | rendered, given⟩ := rendering
      · exact ⟨works.adds, fun _ _ => works.store_eq⟩
      · have concluded := tileset.conclude_concludes given rendered key
        refine ⟨works.adds.trans (concluded.quiet.mono fun event quiet => ?_), ?_⟩
        · exact ⟨quiet.2, fun opening => absurd opening quiet.1⟩
        · exact fun error failed => (concluded.store_eq error failed).trans works.store_eq

theorem run_obeys [Allocator] (tileset : Tileset) (source : RasterSource) (start : Session)
    (call : ClientCall) :
    start.Obeys ((call.run tileset source).run.run start).1
      ((call.run tileset source).run.run start).2 := by
  rw [run_eq_meet, Call.run_bind]
  have prepared := tileset.prepare_prepares start call
  generalize (tileset.prepare call).run.run start = preparing at prepared ⊢
  obtain ⟨error | demand, reached⟩ := preparing
  · exact Session.obeys_of_opensNothing prepared.opensNothing fun _ _ => prepared.store_eq nofun
  · by_cases isNothing : demand = .nothing
    · subst isNothing
      exact Session.obeys_of_opensNothing prepared.opensNothing fun _ failed => nomatch failed
    · have notFound : ¬(.ok demand : Except Error Demand) = .ok .nothing :=
        fun isFound => isNothing (Except.ok.inj isFound)
      obtain ⟨adds, store_eq⟩ := tileset.meet_works source reached demand
      rw [prepared.idle_eq] at adds
      refine Session.obeys_of_noHit (Session.Adds.trans ?_ adds) ?_
      · exact (prepared.quiet notFound).mono fun event quiet =>
          ⟨quiet.2, fun opening => absurd opening quiet.1⟩
      · exact fun error failed => (store_eq error failed).trans (prepared.store_eq notFound)

end Tileset

end TileAtlas
