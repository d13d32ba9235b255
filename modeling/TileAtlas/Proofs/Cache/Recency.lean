import TileAtlas.Cache.Recency

/-!
Contract: where the entries of a store come from.

Owns:
- `evict_isSuffix`: eviction takes entries from the old end only;
- `mem_entries_get` and `mem_entries_put`: no operation makes an entry up or
  changes the bytes of one.
-/

namespace TileAtlas

namespace RecencyStore

variable {store : RecencyStore} {key : String} {data : ByteArray}

theorem mem_entries_of_find? (found : store.find? key = some data) :
    (key, data) ∈ store.entries := by
  obtain ⟨newer, older, split, -⟩ := List.lookup_eq_some_iff.mp found
  simp [split]

theorem get_eq_find? (store : RecencyStore) (key : String) :
    (store.get key).1 = store.find? key := by
  unfold get
  split <;> simp_all

theorem mem_entries_get {entry : String × ByteArray}
    (member : entry ∈ (store.get key).2.entries) : entry ∈ store.entries := by
  unfold get at member
  split at member
  · exact member
  · next data found =>
      rcases List.mem_cons.mp member with rfl | inRest
      · exact mem_entries_of_find? found
      · exact (List.mem_filter.mp inRest).1

theorem mem_entries_erase {entry : String × ByteArray}
    (member : entry ∈ (store.erase key).entries) : entry ∈ store.entries := by
  unfold erase at member
  split at member
  · exact member
  · exact (List.mem_filter.mp member).1

theorem evict_isSuffix (capacity needed size : Nat) (oldestFirst : List (String × ByteArray)) :
    (evict capacity needed size oldestFirst).2 <:+ oldestFirst := by
  induction oldestFirst generalizing size with
  | nil => exact List.suffix_rfl
  | cons oldest newer inductionHypothesis =>
      rw [evict]
      split
      · exact (inductionHypothesis _).trans (List.suffix_cons oldest newer)
      · exact List.suffix_rfl

/-- What is stored after bytes were put is these bytes or was stored before. -/
theorem mem_entries_put {entry : String × ByteArray}
    (member : entry ∈ (store.put key data).entries) :
    entry = (key, data) ∨ entry ∈ store.entries := by
  simp only [put] at member
  split at member
  · exact .inr (mem_entries_erase member)
  · rcases List.mem_cons.mp member with isNew | inKept
    · exact .inl isNew
    · have inOthers := (evict_isSuffix _ _ _ _).mem (List.mem_reverse.mp inKept)
      exact .inr (mem_entries_erase (List.mem_reverse.mp inOthers))

end RecencyStore

end TileAtlas
