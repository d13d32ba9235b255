import Mathlib
import TileAtlas.Proofs.Cache.Recency

/-!
Contract: what a store holds after any operations.

Owns:
- `RecencyStore.IsSound`: keys are distinct, and the size is that of the entries
  and within the capacity;
- `IsLongestFit` and `put_of_le`: a new entry leaves the most recent of the
  others, as many as fit beside it;
- `run_keeps_recent`: all of this after every run, and no bytes but the latest.

Does not own: where entries come from, which holds of stores that are not
sound, too.
-/

namespace TileAtlas

namespace RecencyStore

/-! ## Bytes of entries -/

/-- The number of bytes of some entries. -/
def total (entries : List (String × ByteArray)) : Nat :=
  (entries.map fun entry => entry.2.size).sum

@[simp] theorem total_nil : total [] = 0 := rfl

@[simp] theorem total_cons (entry : String × ByteArray) (rest : List (String × ByteArray)) :
    total (entry :: rest) = entry.2.size + total rest := by
  simp [total]

@[simp] theorem total_reverse (entries : List (String × ByteArray)) :
    total entries.reverse = total entries := by
  simp [total, List.sum_reverse]

def keys (store : RecencyStore) : List String := store.entries.map Prod.fst

/-- The entries of all keys but one. -/
def without (store : RecencyStore) (key : String) : List (String × ByteArray) :=
  store.entries.filter fun entry => entry.1 ≠ key

/-- Distinct keys: an entry is taken out of the total once. -/
theorem total_eq_add_filter {entries : List (String × ByteArray)} {key : String}
    {data : ByteArray} (distinct : (entries.map Prod.fst).Nodup)
    (member : (key, data) ∈ entries) :
    total entries = data.size + total (entries.filter fun entry => entry.1 ≠ key) := by
  induction entries with
  | nil => cases member
  | cons entry rest inductionHypothesis =>
      obtain ⟨notInRest, restDistinct⟩ := List.nodup_cons.mp distinct
      rcases List.mem_cons.mp member with rfl | inRest
      · have untouched : (rest.filter fun entry => entry.1 ≠ key) = rest := by
          refine List.filter_eq_self.mpr fun other inRest => decide_eq_true fun same => ?_
          exact notInRest (List.mem_map.mpr ⟨other, inRest, same⟩)
        rw [List.filter_cons_of_neg (by simp), untouched, total_cons]
      · have otherKey : entry.1 ≠ key := fun same =>
          notInRest (List.mem_map.mpr ⟨_, inRest, same.symm⟩)
        rw [List.filter_cons_of_pos (by simpa using otherKey), total_cons, total_cons,
          inductionHypothesis restDistinct inRest]
        omega

/-! ## Sound stores -/

/-- What holds of every store that came about by operations. -/
structure IsSound (store : RecencyStore) : Prop where
  distinct : store.keys.Nodup
  size_eq : store.size = total store.entries
  size_le : store.size ≤ store.capacity

theorem isSound_empty (capacity : Nat) : (empty capacity).IsSound :=
  ⟨List.nodup_nil, rfl, Nat.zero_le _⟩

section Operations

variable {store : RecencyStore} {key : String} {data : ByteArray}

theorem find?_eq_none_iff : store.find? key = none ↔ key ∉ store.keys := by
  rw [find?, keys, List.lookup_eq_none_iff, List.mem_map]
  constructor
  · rintro missing ⟨entry, member, rfl⟩
    simpa using missing entry member
  · intro missing entry member
    exact bne_iff_ne.mpr fun same => missing ⟨entry, member, same.symm⟩

theorem find?_eq_some_iff (sound : store.IsSound) :
    store.find? key = some data ↔ (key, data) ∈ store.entries := by
  refine ⟨mem_entries_of_find?, fun member => ?_⟩
  cases found : store.find? key with
  | none => exact absurd (List.mem_map_of_mem member) (find?_eq_none_iff.mp found)
  | some other =>
      have otherMember := mem_entries_of_find? found
      have same := List.inj_on_of_nodup_map sound.distinct otherMember member rfl
      rw [(Prod.mk.inj same).2]

theorem contains_iff : store.contains key = true ↔ key ∈ store.keys := by
  rw [contains, Option.isSome_iff_ne_none, ne_eq, find?_eq_none_iff, not_not]

theorem erase_capacity : (store.erase key).capacity = store.capacity := by
  unfold erase
  split <;> rfl

theorem erase_entries : (store.erase key).entries = store.without key := by
  unfold erase
  split
  · next missing =>
      refine (List.filter_eq_self.mpr fun entry member => ?_).symm
      have otherKey : entry.1 ≠ key := fun same =>
        find?_eq_none_iff.mp missing (same ▸ List.mem_map_of_mem member)
      simpa using otherKey
  · rfl

theorem nodup_without (sound : store.IsSound) : ((store.without key).map Prod.fst).Nodup :=
  sound.distinct.sublist (List.filter_sublist.map Prod.fst)

theorem erase_size (sound : store.IsSound) :
    (store.erase key).size = total (store.without key) := by
  cases found : store.find? key with
  | none =>
      have same : store.erase key = store := by simp [erase, found]
      rw [← erase_entries, same, sound.size_eq]
  | some data =>
      have taken := total_eq_add_filter sound.distinct (mem_entries_of_find? found)
      have size : (store.erase key).size = store.size - data.size := by simp [erase, found]
      rw [size, sound.size_eq, taken, Nat.add_sub_cancel_left]
      rfl

theorem erase_size_le : (store.erase key).size ≤ store.size := by
  unfold erase
  split
  · exact Nat.le_refl _
  · exact Nat.sub_le _ _

theorem IsSound.erase (sound : store.IsSound) : (store.erase key).IsSound where
  distinct := by
    rw [keys, erase_entries]
    exact nodup_without sound
  size_eq := by rw [erase_size sound, erase_entries]
  size_le := by
    rw [erase_capacity]
    exact Nat.le_trans erase_size_le sound.size_le

theorem get_of_mem (sound : store.IsSound) (member : (key, data) ∈ store.entries) :
    store.get key = (some data, { store with entries := (key, data) :: store.without key }) := by
  have found := (find?_eq_some_iff sound).mpr member
  simp only [get, found]
  rfl

theorem get_of_not_mem (missing : key ∉ store.keys) : store.get key = (none, store) := by
  simp only [get, find?_eq_none_iff.mpr missing]

theorem mem_without {entry : String × ByteArray} :
    entry ∈ store.without key ↔ entry ∈ store.entries ∧ entry.1 ≠ key := by
  simp [without]

theorem not_mem_without : key ∉ (store.without key).map Prod.fst := by
  simp [without]

theorem IsSound.get (sound : store.IsSound) : (store.get key).2.IsSound := by
  cases found : store.find? key with
  | none =>
      rw [get_of_not_mem (find?_eq_none_iff.mp found)]
      exact sound
  | some data =>
      have member := mem_entries_of_find? found
      rw [get_of_mem sound member]
      refine ⟨List.nodup_cons.mpr ⟨not_mem_without, nodup_without sound⟩, ?_, sound.size_le⟩
      rw [total_cons]
      exact sound.size_eq.trans (total_eq_add_filter sound.distinct member)

/-! ## Making room -/

/-- The first of some entries, as many as have room. -/
structure IsLongestFit (room : Nat) (entries kept : List (String × ByteArray)) : Prop where
  isPrefix : kept <+: entries
  fits : total kept ≤ room
  longest : ∀ other, other <+: entries → total other ≤ room → other <+: kept

theorem evict_spec {capacity needed : Nat} (fits : needed ≤ capacity)
    (oldestFirst : List (String × ByteArray)) :
    ∃ kept, evict capacity needed (total oldestFirst) oldestFirst = (total kept, kept) ∧
      kept <:+ oldestFirst ∧ total kept + needed ≤ capacity ∧
      ∀ other, other <:+ oldestFirst → total other + needed ≤ capacity → other <:+ kept := by
  induction oldestFirst with
  | nil => exact ⟨[], rfl, List.suffix_rfl, by simpa using fits, fun _ isSuffix _ => isSuffix⟩
  | cons oldest newer inductionHypothesis =>
      by_cases full : capacity < total (oldest :: newer) + needed
      · obtain ⟨kept, evicted, isSuffix, fitting, longest⟩ := inductionHypothesis
        refine ⟨kept, ?_, isSuffix.trans (List.suffix_cons oldest newer), fitting, ?_⟩
        · rw [evict, if_pos full, total_cons, Nat.add_sub_cancel_left, evicted]
        · intro other otherSuffix otherFits
          rcases List.suffix_cons_iff.mp otherSuffix with rfl | inNewer
          · exact absurd full (Nat.not_lt.mpr otherFits)
          · exact longest other inNewer otherFits
      · refine ⟨oldest :: newer, ?_, List.suffix_rfl, Nat.not_lt.mp full,
          fun _ isSuffix _ => isSuffix⟩
        rw [evict, if_neg full]

theorem put_of_lt (large : store.capacity < data.size) : store.put key data = store.erase key := by
  simp only [put, erase_capacity, if_pos large]

/-- A new entry stands first, before the most recent others that fit beside it. -/
theorem put_of_le (key : String) (sound : store.IsSound) (fits : data.size ≤ store.capacity) :
    ∃ kept, IsLongestFit (store.capacity - data.size) (store.without key) kept ∧
      store.put key data =
        ⟨store.capacity, total ((key, data) :: kept), (key, data) :: kept⟩ := by
  obtain ⟨oldestFirst, evicted, isSuffix, fitting, longest⟩ :=
    evict_spec fits (store.without key).reverse
  refine ⟨oldestFirst.reverse, ⟨?_, ?_, ?_⟩, ?_⟩
  · simpa using List.reverse_prefix.mpr isSuffix
  · rw [total_reverse]
    omega
  · intro other otherPrefix otherFits
    have inOldest := longest other.reverse (List.reverse_suffix.mpr otherPrefix)
      (by rw [total_reverse]; omega)
    simpa using List.reverse_prefix.mpr inOldest
  · have made : evict store.capacity data.size (total (store.without key))
        (store.without key).reverse = (total oldestFirst, oldestFirst) := by
      rw [← total_reverse]
      exact evicted
    simp only [put, erase_capacity, if_neg (Nat.not_lt.mpr fits), erase_size sound, erase_entries,
      made, total_cons, total_reverse, Nat.add_comm]

theorem IsSound.put (sound : store.IsSound) : (store.put key data).IsSound := by
  by_cases large : store.capacity < data.size
  · rw [put_of_lt large]
    exact sound.erase
  · have fits := Nat.not_lt.mp large
    obtain ⟨kept, longest, stored⟩ := put_of_le key sound fits
    have keptKeys : kept.map Prod.fst <+: (store.without key).map Prod.fst :=
      longest.isPrefix.map Prod.fst
    rw [stored]
    refine ⟨List.nodup_cons.mpr
      ⟨fun member => not_mem_without (keptKeys.subset member), ?_⟩, rfl, ?_⟩
    · exact (nodup_without sound).sublist keptKeys.sublist
    · have fitting := longest.fits
      simp only [total_cons]
      omega

end Operations

end RecencyStore

/-! ## Runs -/

/-- An operation on a store. -/
inductive StoreStep where
  | put (key : String) (data : ByteArray)
  | get (key : String)
  | contains (key : String)
  | erase (key : String)

namespace StoreStep

def apply (store : RecencyStore) : StoreStep → RecencyStore
  | .put key data => store.put key data
  | .get key => (store.get key).2
  | .contains _ => store
  | .erase key => store.erase key

/-- What the latest operation on a key put there. -/
def latest (key : String) (before : Option ByteArray) : StoreStep → Option ByteArray
  | .put other data => if other = key then some data else before
  | .erase other => if other = key then none else before
  | .get _ | .contains _ => before

end StoreStep

namespace RecencyStore

/-- The store after operations on an empty one. -/
def run (capacity : Nat) (steps : List StoreStep) : RecencyStore :=
  steps.foldl StoreStep.apply (empty capacity)

/-- The bytes that a run put last under a key, unless they were erased. -/
def latestPut? (steps : List StoreStep) (key : String) : Option ByteArray :=
  steps.foldl (StoreStep.latest key) none

theorem isSound_apply {store : RecencyStore} (sound : store.IsSound) (step : StoreStep) :
    (step.apply store).IsSound := by
  cases step with
  | put key data => exact sound.put
  | get key => exact sound.get
  | contains key => exact sound
  | erase key => exact sound.erase

theorem capacity_apply (store : RecencyStore) (step : StoreStep) :
    (step.apply store).capacity = store.capacity := by
  cases step with
  | put key data =>
      simp only [StoreStep.apply, put]
      split <;> exact erase_capacity
  | get key =>
      simp only [StoreStep.apply, get]
      split <;> rfl
  | contains key => rfl
  | erase key => exact erase_capacity

theorem isSound_run (capacity : Nat) (steps : List StoreStep) :
    (run capacity steps).IsSound ∧ (run capacity steps).capacity = capacity := by
  induction steps using List.reverseRecOn with
  | nil => exact ⟨isSound_empty capacity, rfl⟩
  | append_singleton steps step inductionHypothesis =>
      obtain ⟨sound, same⟩ := inductionHypothesis
      rw [run, List.foldl_append]
      exact ⟨isSound_apply sound step, (capacity_apply _ step).trans same⟩

/-- No entry is of an earlier put. -/
theorem latestPut?_of_mem {capacity : Nat} {steps : List StoreStep} {key : String}
    {data : ByteArray} (member : (key, data) ∈ (run capacity steps).entries) :
    latestPut? steps key = some data := by
  induction steps using List.reverseRecOn with
  | nil => cases member
  | append_singleton steps step inductionHypothesis =>
      have sound := (isSound_run capacity steps).1
      rw [latestPut?, List.foldl_append]
      rw [run, List.foldl_append] at member
      cases step with
      | put other bytes =>
          have kept : (key, data) ∈ (run capacity steps).without other →
              (StoreStep.put other bytes).latest key (latestPut? steps key) = some data := by
            intro inOthers
            obtain ⟨inEntries, otherKey⟩ := mem_without.mp inOthers
            exact (if_neg (Ne.symm otherKey)).trans (inductionHypothesis inEntries)
          change (key, data) ∈ ((run capacity steps).put other bytes).entries at member
          by_cases large : (run capacity steps).capacity < bytes.size
          · rw [put_of_lt large, erase_entries] at member
            exact kept member
          · obtain ⟨room, longest, stored⟩ := put_of_le other sound (Nat.not_lt.mp large)
            rw [stored] at member
            rcases List.mem_cons.mp member with isNew | inRoom
            · obtain ⟨rfl, rfl⟩ := Prod.mk.inj isNew
              exact if_pos rfl
            · exact kept (longest.isPrefix.subset inRoom)
      | get other => exact inductionHypothesis (mem_entries_get member)
      | contains other => exact inductionHypothesis member
      | erase other =>
          change (key, data) ∈ ((run capacity steps).erase other).entries at member
          rw [erase_entries] at member
          obtain ⟨inEntries, otherKey⟩ := mem_without.mp member
          exact (if_neg (Ne.symm otherKey)).trans (inductionHypothesis inEntries)

/-- After any operations the entries stand from the most to the least recently
used, within the capacity, and each further operation moves, adds or removes
them as a store of recent use has to. -/
theorem run_keeps_recent (capacity : Nat) (steps : List StoreStep) :
    let store := run capacity steps
    store.keys.Nodup ∧ store.size = total store.entries ∧ store.size ≤ capacity ∧
      (∀ key data, data.size ≤ capacity →
        ∃ kept, (store.put key data).entries = (key, data) :: kept ∧
          IsLongestFit (capacity - data.size) (store.without key) kept) ∧
      (∀ key data, capacity < data.size → (store.put key data).entries = store.without key) ∧
      (∀ key data, (key, data) ∈ store.entries →
        (store.get key).1 = some data ∧
          (store.get key).2.entries = (key, data) :: store.without key) ∧
      (∀ key, key ∉ store.keys → store.get key = (none, store)) ∧
      (∀ key, (store.contains key = true ↔ key ∈ store.keys) ∧
        StoreStep.apply store (.contains key) = store) ∧
      (∀ key, (store.erase key).entries = store.without key) ∧
      ∀ key data, (store.get key).1 = some data → latestPut? steps key = some data := by
  intro store
  obtain ⟨sound, same⟩ := isSound_run capacity steps
  refine ⟨sound.distinct, sound.size_eq, ?_, ?_, ?_, ?_, ?_, ?_, ?_, ?_⟩
  · exact same ▸ sound.size_le
  · intro key data fits
    obtain ⟨kept, longest, stored⟩ := put_of_le key sound (same.symm ▸ fits)
    rw [same] at longest
    exact ⟨kept, congrArg RecencyStore.entries stored, longest⟩
  · intro key data large
    rw [put_of_lt (same.symm ▸ large), erase_entries]
  · intro key data member
    rw [get_of_mem sound member]
    exact ⟨rfl, rfl⟩
  · intro key missing
    exact get_of_not_mem missing
  · intro key
    exact ⟨contains_iff, rfl⟩
  · intro key
    exact erase_entries
  · intro key data answered
    rw [get_eq_find?] at answered
    exact latestPut?_of_mem (mem_entries_of_find? answered)

/-- Four bytes. -/
def fourBytes : ByteArray := ⟨#[1, 2, 3, 4]⟩

/-- A use of `a` in between makes `b` the entry that gives way to `c`. -/
theorem run_keeps_recent_of_use :
    let store := run 10 [.put "a" fourBytes, .put "b" fourBytes, .get "a"]
    fourBytes.size ≤ 10 ∧ store.without "c" = [("a", fourBytes), ("b", fourBytes)] ∧
      ∃ kept, (store.put "c" fourBytes).entries = ("c", fourBytes) :: kept ∧
        kept <+: [("a", fourBytes), ("b", fourBytes)] ∧ [("a", fourBytes)] <+: kept ∧
        total kept ≤ 6 := by
  intro store
  have others : store.without "c" = [("a", fourBytes), ("b", fourBytes)] := by decide +kernel
  obtain ⟨kept, stored, longest⟩ := (run_keeps_recent 10 _).2.2.2.1 "c" fourBytes (by decide)
  rw [show RecencyStore.without _ "c" = _ from others] at longest
  exact ⟨by decide, others, kept, stored, longest.isPrefix,
    longest.longest _ (by decide +kernel) (by decide), longest.fits⟩

end RecencyStore

end TileAtlas
