import TileAtlas.Proofs.Number.Comparison
import TileAtlas.Proofs.Number.Literal
import TileAtlas.Proofs.Tileset

/-!
Contract: which texts are read as extents.

Owns:
- `Text.IsSplit` and `Text.words_eq_iff`: a text is cut at its blanks;
- `Extent.IsWritten`, four literals between blanks, and `Extent.IsOrdered`;
- `Extent.isReadOrdered_iff`: written extents are read exactly if they are ordered,
  but for those that a missing coordinate keeps from being compared.

Does not own: what a pyramid or a dataset does with an extent.

## Missing coordinates

An extent is refused if a maximum is at most its minimum.  No comparison with a
missing number holds, so a missing coordinate is refused only when the other axis is.
-/

namespace TileAtlas

namespace Text

/-! ## Words -/

/-- A text is cut into words without blanks, and blanks before, between and after
them. -/
inductive IsSplit : List Char → List (List Char) → Prop
  | blank {text : List Char} (areBlank : ∀ char ∈ text, isBlank char) : IsSplit text []
  | word {blanks word rest : List Char} {words : List (List Char)}
      (areBlank : ∀ char ∈ blanks, isBlank char) (some : word ≠ [])
      (noBlank : ∀ char ∈ word, isBlank char = false) (ends : ∀ char ∈ rest.head?, isBlank char)
      (isRest : IsSplit rest words) : IsSplit (blanks ++ (word ++ rest)) (word :: words)

theorem IsSplit.cons {text : List Char} {words : List (List Char)} {char : Char}
    (isSplit : IsSplit text words) (isBlank : isBlank char) : IsSplit (char :: text) words := by
  cases isSplit with
  | blank areBlank => exact .blank (List.forall_mem_cons.mpr ⟨isBlank, areBlank⟩)
  | word areBlank some noBlank ends isRest =>
      exact .word (List.forall_mem_cons.mpr ⟨isBlank, areBlank⟩) some noBlank ends isRest

theorem IsSplit.first {word rest : List Char} {words : List (List Char)} (some : word ≠ [])
    (noBlank : ∀ char ∈ word, isBlank char = false) (ends : ∀ char ∈ rest.head?, isBlank char)
    (isRest : IsSplit rest words) : IsSplit (word ++ rest) (word :: words) :=
  @IsSplit.word [] _ _ _ (List.forall_mem_nil _) some noBlank ends isRest

/-- The piece that is being collected is cut off with the rest of the text. -/
theorem isSplit_wordsFrom (text : List Char) {word : List Char}
    (noBlank : ∀ char ∈ word, isBlank char = false) :
    IsSplit (word.reverse ++ text) (wordsFrom word text) := by
  induction text generalizing word with
  | nil =>
      unfold wordsFrom
      split
      · next none =>
          subst none
          exact .blank (by simp)
      · next some =>
          exact .first (by simpa using some) (by simpa using noBlank) (by simp) (.blank (by simp))
  | cons char rest inductionHypothesis =>
      have isRest : IsSplit rest (wordsFrom [] rest) := inductionHypothesis (List.forall_mem_nil _)
      rw [wordsFrom]
      split
      · next isBlank =>
          split
          · next none =>
              subst none
              exact isRest.cons isBlank
          · next some =>
              exact .first (by simpa using some) (by simpa using noBlank) (by simpa using isBlank)
                (isRest.cons isBlank)
      · next notBlank =>
          have isLonger := inductionHypothesis
            (List.forall_mem_cons.mpr ⟨Bool.eq_false_iff.mpr notBlank, noBlank⟩)
          rw [List.reverse_cons, List.append_assoc] at isLonger
          exact isLonger

theorem wordsFrom_blanks {blanks : List Char} (areBlank : ∀ char ∈ blanks, isBlank char)
    (rest : List Char) : wordsFrom [] (blanks ++ rest) = wordsFrom [] rest := by
  induction blanks with
  | nil => rfl
  | cons char blanks inductionHypothesis =>
      obtain ⟨isBlank, areBlank⟩ := List.forall_mem_cons.mp areBlank
      rw [List.cons_append, wordsFrom, if_pos isBlank, if_pos rfl, inductionHypothesis areBlank]

theorem wordsFrom_letters {letters : List Char} (noBlank : ∀ char ∈ letters, isBlank char = false)
    (word rest : List Char) :
    wordsFrom word (letters ++ rest) = wordsFrom (letters.reverse ++ word) rest := by
  induction letters generalizing word with
  | nil => rfl
  | cons char letters inductionHypothesis =>
      obtain ⟨notBlank, noBlank⟩ := List.forall_mem_cons.mp noBlank
      rw [List.cons_append, wordsFrom, if_neg (Bool.eq_false_iff.mp notBlank),
        inductionHypothesis noBlank, List.reverse_cons, List.append_assoc]
      rfl

/-- A word ends where a blank follows, or nothing. -/
theorem wordsFrom_of_ends {word rest : List Char} (some : word ≠ [])
    (ends : ∀ char ∈ rest.head?, isBlank char) :
    wordsFrom word rest = word.reverse :: wordsFrom [] rest := by
  cases rest with
  | nil => simp [wordsFrom, some]
  | cons char rest => simp [wordsFrom, some, ends char rfl]

/-- There is one way to cut a text. -/
theorem words_eq_iff {text : List Char} {pieces : List (List Char)} :
    words text = pieces ↔ IsSplit text pieces := by
  constructor
  · rintro rfl
    exact isSplit_wordsFrom text (List.forall_mem_nil _)
  · intro isSplit
    unfold words
    induction isSplit with
    | @blank text areBlank =>
        have onlyBlanks := wordsFrom_blanks areBlank []
        rw [List.append_nil] at onlyBlanks
        exact onlyBlanks
    | word areBlank some noBlank ends isRest inductionHypothesis =>
        rw [wordsFrom_blanks areBlank, wordsFrom_letters noBlank, List.append_nil,
          wordsFrom_of_ends (List.reverse_ne_nil_iff.mpr some) ends, List.reverse_reverse,
          inductionHypothesis]

end Text

namespace Extent

open Binary

/-! ## Texts of extents -/

/-- The text has four literals of the coordinates between its blanks. -/
def IsWritten (text : String) (extent : Extent Float) : Prop :=
  ∃ words, Text.IsSplit text.toList words ∧
    List.Forall₂ Decimal.IsLiteral words [extent.minX, extent.minY, extent.maxX, extent.maxY]

/-- On both axes the minimum is below the maximum. -/
def IsOrdered (extent : Extent Float) : Prop :=
  extent.minX < extent.maxX ∧ extent.minY < extent.maxY

/-- A coordinate is missing, and on no axis is the maximum at most the minimum. -/
def IsLoose (extent : Extent Float) : Prop :=
  (∃ coordinate ∈ [extent.minX, extent.minY, extent.maxX, extent.maxY], IsMissing coordinate) ∧
    ¬extent.maxX ≤ extent.minX ∧ ¬extent.maxY ≤ extent.minY

theorem isOrdered_or_isLoose_iff {extent : Extent Float} : extent.IsOrdered ∨ extent.IsLoose ↔
    ¬extent.maxX ≤ extent.minX ∧ ¬extent.maxY ≤ extent.minY := by
  constructor
  · rintro (⟨alongX, alongY⟩ | loose)
    · exact ⟨not_ge_iff.mpr (.inl alongX), not_ge_iff.mpr (.inl alongY)⟩
    · exact loose.2
  · intro accepted
    rcases not_ge_iff.mp accepted.1 with alongX | missing | missing
    · rcases not_ge_iff.mp accepted.2 with alongY | missing | missing
      · exact .inl ⟨alongX, alongY⟩
      · exact .inr ⟨⟨_, by simp, missing⟩, accepted⟩
      · exact .inr ⟨⟨_, by simp, missing⟩, accepted⟩
    · exact .inr ⟨⟨_, by simp, missing⟩, accepted⟩
    · exact .inr ⟨⟨_, by simp, missing⟩, accepted⟩

theorem IsLoose.not_isOrdered {extent : Extent Float} (loose : extent.IsLoose) :
    ¬extent.IsOrdered := by
  rintro ⟨alongX, alongY⟩
  obtain ⟨coordinate, isCoordinate, missing⟩ := loose.1
  simp only [List.mem_cons, List.not_mem_nil, or_false] at isCoordinate
  rcases isCoordinate with rfl | rfl | rfl | rfl
  · exact missing.not_lt _ alongX
  · exact missing.not_lt _ alongY
  · exact missing.not_gt _ alongX
  · exact missing.not_gt _ alongY

/-- How one word of the text of an extent is read. -/
def readWord (text : String) (word : List Char) : Except ConfigFault Float :=
  match Decimal.readFloat? word with
  | some number => .ok number
  | none => .error (.extentLiteral text (if word = [] then .empty else .malformed))

theorem readWord_eq_ok_iff {text : String} {word : List Char} {number : Float} :
    readWord text word = .ok number ↔ Decimal.IsLiteral word number := by
  rw [← Decimal.readFloat?_eq_some_iff, readWord]
  cases Decimal.readFloat? word <;> simp

theorem readNumbers_eq_ok_iff {text : String} {numbers : List Float} :
    readNumbers text = .ok numbers ↔
      ∃ words, Text.IsSplit text.toList words ∧ List.Forall₂ Decimal.IsLiteral words numbers := by
  change (Text.words text.toList).mapM (readWord text) = .ok numbers ↔ _
  rw [mapM_eq_ok_iff]
  simp only [readWord_eq_ok_iff]
  constructor
  · intro areLiterals
    exact ⟨_, Text.words_eq_iff.mp rfl, areLiterals⟩
  · rintro ⟨words, isSplit, areLiterals⟩
    rw [Text.words_eq_iff.mpr isSplit]
    exact areLiterals

/-- A text is read as an extent if it is written and no axis is seen to be out of
order. -/
theorem ofText_eq_ok_iff {text : String} {extent : Extent Float} :
    ofText text = .ok extent ↔ IsWritten text extent ∧ (extent.IsOrdered ∨ extent.IsLoose) := by
  have isWritten (numbers : List Float) : readNumbers text = .ok numbers ↔ _ :=
    readNumbers_eq_ok_iff
  rw [isOrdered_or_isLoose_iff, IsWritten, ← isWritten]
  unfold ofText
  cases readNumbers text with
  | error fault => simp
  | ok numbers =>
      obtain ⟨minX, minY, maxX, maxY⟩ := extent
      match numbers with
      | [] | [_] | [_, _] | [_, _, _] | _ :: _ :: _ :: _ :: _ :: _ => simp
      | [first, second, third, fourth] =>
          simp only [Except.ok.injEq, List.cons.injEq, and_true]
          split
          · next refused =>
              refine iff_of_false (fun read => nomatch read) ?_
              rintro ⟨⟨rfl, rfl, rfl, rfl⟩, accepted⟩
              exact not_and_or.mpr (refused.imp not_not.mpr not_not.mpr) accepted
          · next accepted =>
              rw [not_or] at accepted
              constructor
              · intro read
                cases read
                exact ⟨⟨rfl, rfl, rfl, rfl⟩, accepted⟩
              · rintro ⟨⟨rfl, rfl, rfl, rfl⟩, -⟩
                rfl

/-! ## Extents of sources -/

/-- The text is read exactly as what it writes if that is ordered, and any other
text is a fault of the settings; the tilesets that have it for their source are
rendered within an ordered extent. -/
structure IsReadOrdered (text : String) : Prop where
  accepted (extent : Extent Float) :
    ofText text = .ok extent ↔ IsWritten text extent ∧ extent.IsOrdered
  refused : (¬∃ extent, IsWritten text extent ∧ extent.IsOrdered) →
    ∃ fault, IsTextFault text fault ∧ ofText text = .error fault ∧
      ∀ source : SourceSettings, source.extent = some text →
        source.validExtent = .error (.config fault)
  rendered {tileset : Tileset} {tile : TileCoordinate} {request : TileRequest} :
    tileset.settings.source.extent = some text → tileset.request tile = .ok request →
      ∃ extent, request.validExtent = some extent ∧ extent.IsOrdered

theorem validExtent_of_error {text : String} {fault : ConfigFault}
    (failed : ofText text = .error fault) {source : SourceSettings}
    (isExtent : source.extent = some text) : source.validExtent = .error (.config fault) :=
  SourceSettings.validExtent_eq_error_iff.mpr ⟨text, fault, isExtent, failed, rfl⟩

/-- A request is rendered within the extent that the text of its source is read as. -/
theorem exists_of_request {text : String} {tileset : Tileset} {tile : TileCoordinate}
    {request : TileRequest} (isExtent : tileset.settings.source.extent = some text)
    (requested : tileset.request tile = .ok request) :
    ∃ extent, ofText text = .ok extent ∧ request.validExtent = some extent := by
  have valid := Tileset.validExtent_of_request requested
  cases read : ofText text with
  | error fault => exact nomatch (validExtent_of_error read isExtent).symm.trans valid
  | ok extent =>
      rw [SourceSettings.validExtent, isExtent] at valid
      simp only [read, Except.ok.injEq] at valid
      exact ⟨extent, rfl, valid.symm⟩

/-- Texts are read as ordered extents and as loose ones, and as ordered ones only if
they write no loose one. -/
theorem isReadOrdered_iff (text : String) :
    (∀ extent, ofText text = .ok extent ↔
      IsWritten text extent ∧ (extent.IsOrdered ∨ extent.IsLoose)) ∧
    (IsReadOrdered text ↔ ¬∃ extent, IsWritten text extent ∧ extent.IsLoose) := by
  refine ⟨fun _ => ofText_eq_ok_iff, ?_, ?_⟩
  · rintro readOrdered ⟨extent, written, loose⟩
    have read := ofText_eq_ok_iff.mpr ⟨written, .inr loose⟩
    exact loose.not_isOrdered ((readOrdered.accepted extent).mp read).2
  · intro noLoose
    have accepted (extent : Extent Float) :
        ofText text = .ok extent ↔ IsWritten text extent ∧ extent.IsOrdered := by
      rw [ofText_eq_ok_iff]
      refine and_congr_right fun written => or_iff_left ?_
      exact fun loose => noLoose ⟨extent, written, loose⟩
    refine ⟨accepted, fun none => ?_, fun isExtent requested => ?_⟩
    · cases read : ofText text with
      | ok extent => exact absurd ⟨extent, (accepted extent).mp read⟩ none
      | error fault =>
          exact ⟨fault, isTextFault_of_ofText read, rfl, fun _ => validExtent_of_error read⟩
    · obtain ⟨extent, read, valid⟩ := exists_of_request isExtent requested
      exact ⟨extent, valid, ((accepted extent).mp read).2⟩

/-- A missing minimum is read as an extent. -/
theorem not_isReadOrdered_missing : ¬IsReadOrdered "nan 0 1 1" := by
  intro readOrdered
  have read : ∃ extent, ofText "nan 0 1 1" = .ok extent := exists_eq_ok (by decide +kernel)
  obtain ⟨extent, read⟩ := read
  have unordered : ((ofText "nan 0 1 1").toOption.map fun extent =>
      decide (extent.minX < extent.maxX)) = some false := by
    decide +kernel
  rw [read] at unordered
  have notBelow : ¬extent.minX < extent.maxX := by simpa [Except.toOption] using unordered
  exact notBelow ((readOrdered.accepted extent).mp read).2.1

end Extent

end TileAtlas
