import Mathlib.Data.List.Forall2

/-!
Contract: sequences that are put together from pieces.

Owns:
- the place of a cell in rows, and of an element in a concatenation of pieces of
  one length;
- steps and traversals that succeed;
- look-ups in an association whose values are those of one function.
-/

namespace TileAtlas

/-- The place of a cell in rows of one width, counted row by row. -/
theorem rowMajor_lt {x y width height : Nat} (inX : x < width) (inY : y < height) :
    y * width + x < width * height := by
  have rows : (y + 1) * width ≤ height * width := Nat.mul_le_mul_right width inY
  rw [Nat.succ_mul, Nat.mul_comm height] at rows
  omega

theorem rowMajor_mod {x width : Nat} (y : Nat) (inX : x < width) : (y * width + x) % width = x := by
  rw [Nat.mul_comm, Nat.mul_add_mod, Nat.mod_eq_of_lt inX]

theorem rowMajor_div {x width : Nat} (y : Nat) (inX : x < width) : (y * width + x) / width = y := by
  rw [Nat.mul_comm, Nat.mul_add_div (by omega), Nat.div_eq_of_lt inX, Nat.add_zero]

/-- In a concatenation of pieces of one length, the place of an element tells
its piece. -/
theorem getElem?_flatMap_uniform {β γ : Type} (piece : β → List γ) {length : Nat}
    (items : List β) (uniform : ∀ item ∈ items, (piece item).length = length)
    {index : Nat} (inItems : index < items.length) {offset : Nat} (inPiece : offset < length) :
    (items.flatMap piece)[index * length + offset]? = (piece items[index])[offset]? := by
  induction items generalizing index with
  | nil => cases inItems
  | cons head tail inductionHypothesis =>
      have headLength : (piece head).length = length := uniform head (by simp)
      rw [List.flatMap_cons]
      cases index with
      | zero =>
          rw [Nat.zero_mul, Nat.zero_add, List.getElem?_append_left (by omega)]
          rfl
      | succ index =>
          have shifted : (index + 1) * length + offset - (piece head).length =
              index * length + offset := by
            rw [Nat.succ_mul, headLength]
            omega
          rw [List.getElem?_append_right (by rw [Nat.succ_mul]; omega), shifted]
          exact inductionHypothesis (fun item member => uniform item (by simp [member]))
            (by simpa using inItems)

theorem length_flatMap_uniform {β γ : Type} (piece : β → List γ) {length : Nat}
    (items : List β) (uniform : ∀ item ∈ items, (piece item).length = length) :
    (items.flatMap piece).length = items.length * length := by
  induction items with
  | nil => simp
  | cons head tail inductionHypothesis =>
      rw [List.flatMap_cons, List.length_append, uniform head (by simp),
        inductionHypothesis (fun item member => uniform item (by simp [member])),
        List.length_cons, Nat.succ_mul, Nat.add_comm]

/-- The piece of an item out of pieces of one length. -/
theorem slice_flatMap_uniform {β γ : Type} (piece : β → List γ) {length : Nat}
    (items : List β) (uniform : ∀ item ∈ items, (piece item).length = length)
    {index : Nat} (inItems : index < items.length) :
    ((items.flatMap piece).drop (index * length)).take length = piece items[index] := by
  apply List.ext_getElem?
  intro offset
  by_cases inPiece : offset < length
  · rw [List.getElem?_take_of_lt inPiece, List.getElem?_drop,
      getElem?_flatMap_uniform piece items uniform inItems inPiece]
  · have pieceEnds : (piece items[index]).length ≤ offset := by
      rw [uniform _ (List.getElem_mem inItems)]
      omega
    rw [List.getElem?_eq_none pieceEnds, List.getElem?_eq_none]
    exact Nat.le_trans (List.length_take_le _ _) (Nat.le_of_not_lt inPiece)

/-- A row out of equal rows. -/
theorem slice_flatten_replicate {β : Type} (row : List β) {index count : Nat}
    (inRows : index < count) :
    ((List.replicate count row).flatten.drop (index * row.length)).take row.length = row := by
  obtain ⟨rest, rfl⟩ := Nat.exists_eq_add_of_lt inRows
  have before : ((List.replicate index row).flatten).length = index * row.length := by simp
  rw [Nat.add_assoc, ← List.replicate_append_replicate, List.flatten_append, List.drop_left' before,
    List.replicate_succ, List.flatten_cons, List.take_left' rfl]

/-- Steps in a row succeed if each of them does. -/
theorem bind_eq_ok {fault β γ : Type} {first : Except fault β} {next : β → Except fault γ}
    {result : γ} (succeeds : (first >>= next) = .ok result) :
    ∃ value, first = .ok value ∧ next value = .ok result := by
  cases first with
  | error error => cases succeeds
  | ok value => exact ⟨value, rfl, succeeds⟩

/-- Steps in a row fail with the first of them or, if that succeeds, behind it. -/
theorem bind_eq_error_iff {fault β γ : Type} {first : Except fault β} {next : β → Except fault γ}
    {error : fault} : first >>= next = .error error ↔
      first = .error error ∨ ∃ value, first = .ok value ∧ next value = .error error := by
  cases first <;> simp [bind, Except.bind]

theorem map_eq_error_iff {fault β γ : Type} {result : Except fault β} {change : β → γ}
    {error : fault} : result.map change = .error error ↔ result = .error error := by
  cases result <;> simp [Except.map]

theorem exists_eq_ok {fault β : Type} {result : Except fault β} (succeeds : result.isOk = true) :
    ∃ value, result = .ok value := by
  cases result with
  | error error => cases succeeds
  | ok value => exact ⟨value, rfl⟩

/-- A traversal that succeeds at every element is a map. -/
theorem mapM_eq_ok {β γ fault : Type} {action : β → Except fault γ} (value : β → γ)
    (items : List β) (succeeds : ∀ item ∈ items, action item = .ok (value item)) :
    items.mapM action = .ok (items.map value) := by
  induction items with
  | nil => rfl
  | cons head tail inductionHypothesis =>
      rw [List.mapM_cons, succeeds head (by simp),
        inductionHypothesis (fun item member => succeeds item (by simp [member]))]
      rfl

/-- A traversal succeeds with what its elements succeed with. -/
theorem mapM_eq_ok_iff {β γ fault : Type} {action : β → Except fault γ} {items : List β}
    {values : List γ} : items.mapM action = .ok values ↔
      List.Forall₂ (fun item value => action item = .ok value) items values := by
  induction items generalizing values with
  | nil =>
      rw [List.forall₂_nil_left_iff, List.mapM_nil]
      exact ⟨fun succeeds => (Except.ok.inj succeeds).symm,
        fun none => congrArg Except.ok none.symm⟩
  | cons head tail inductionHypothesis =>
      rw [List.forall₂_cons_left_iff, List.mapM_cons]
      cases first : action head with
      | error fault => simp [bind, Except.bind]
      | ok value =>
          cases rest : tail.mapM action with
          | error fault =>
              refine iff_of_false (fun succeeds => nomatch succeeds) ?_
              rintro ⟨_, others, -, succeed, -⟩
              exact nomatch rest.symm.trans (inductionHypothesis.mpr succeed)
          | ok others =>
              have same := inductionHypothesis.mp rest
              constructor
              · intro succeeds
                cases succeeds
                exact ⟨_, _, rfl, same, rfl⟩
              · rintro ⟨_, _, isValue, succeed, rfl⟩
                cases isValue
                cases rest.symm.trans (inductionHypothesis.mpr succeed)
                rfl

/-- Steps that agree at every element make the same run. -/
theorem foldlM_congr {β state fault : Type} {step other : state → β → Except fault state}
    (items : List β) (same : ∀ item ∈ items, ∀ current, step current item = other current item)
    (start : state) : items.foldlM step start = items.foldlM other start := by
  induction items generalizing start with
  | nil => rfl
  | cons head tail inductionHypothesis =>
      rw [List.foldlM_cons, List.foldlM_cons, same head (by simp)]
      congr 1
      funext next
      exact inductionHypothesis (fun item member => same item (by simp [member])) next

/-- A traversal fails as one of its elements does. -/
theorem exists_of_mapM_eq_error {fault β γ : Type} {action : β → Except fault γ} {error : fault}
    (items : List β) (failed : items.mapM action = .error error) :
    ∃ item ∈ items, action item = .error error := by
  induction items with
  | nil => cases failed
  | cons head tail inductionHypothesis =>
      rw [List.mapM_cons, bind_eq_error_iff] at failed
      cases failed with
      | inl headFailed => exact ⟨head, by simp, headFailed⟩
      | inr tailFailed =>
          obtain ⟨_, -, failed⟩ := tailFailed
          cases rest : tail.mapM action with
          | ok values =>
              rw [rest] at failed
              cases failed
          | error fault =>
              rw [rest] at failed
              cases failed
              obtain ⟨item, member, itemFailed⟩ := inductionHypothesis rest
              exact ⟨item, by simp [member], itemFailed⟩

/-- An association that gives every key the value of one function finds that
value at every key it has. -/
theorem lookup_eq_some {β γ : Type} [BEq β] [LawfulBEq β] (value : β → γ) {key : β}
    (entries : List (β × γ)) (same : ∀ entry ∈ entries, entry.2 = value entry.1)
    (member : key ∈ entries.map Prod.fst) : entries.lookup key = some (value key) := by
  induction entries with
  | nil => cases member
  | cons head tail inductionHypothesis =>
      obtain ⟨headKey, headValue⟩ := head
      rw [List.lookup_cons]
      by_cases isHead : key = headKey
      · subst isHead
        have : headValue = value key := same (key, headValue) (by simp)
        simp [this]
      · have inTail : key ∈ tail.map Prod.fst := by simpa [isHead] using member
        simp only [beq_eq_false_iff_ne.mpr isHead]
        exact inductionHypothesis (fun entry inEntries => same entry (by simp [inEntries])) inTail

/-- An association finds one of its entries at every key it has. -/
theorem exists_lookup {β γ : Type} [BEq β] [LawfulBEq β] {key : β} {entries : List (β × γ)}
    (member : key ∈ entries.map Prod.fst) :
    ∃ value, entries.lookup key = some value ∧ (key, value) ∈ entries := by
  induction entries with
  | nil => cases member
  | cons head tail inductionHypothesis =>
      obtain ⟨headKey, headValue⟩ := head
      rw [List.lookup_cons]
      cases isHead : key == headKey with
      | true =>
          obtain rfl := eq_of_beq isHead
          exact ⟨headValue, rfl, List.mem_cons_self⟩
      | false =>
          have notHead : key ≠ headKey := fun same => by simp [same] at isHead
          obtain ⟨value, found, inTail⟩ :=
            inductionHypothesis ((List.mem_cons.mp member).resolve_left notHead)
          exact ⟨value, found, List.mem_cons_of_mem _ inTail⟩

end TileAtlas
