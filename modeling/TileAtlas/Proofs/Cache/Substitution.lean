import TileAtlas.Proofs.Cache.Key
import TileAtlas.Proofs.Cache.Template
import TileAtlas.Proofs.Tileset

/-!
Contract: the keys of templates that are put together from tokens and texts.

Owns:
- `Token`, `Piece` and `written`, a template as a row of pieces;
- `substitute_written` and `holds_written_iff`: one pass replaces the pieces of
  one token, and a search finds them;
- `inscribed`, what stands in a key for a piece when all tokens are replaced at
  once, and `templateKey_written`, the passes one after another as that;
- `SetsNumbersApart` and `eq_of_flatMap_eq`: where every number ends, a key gives
  its numbers away.

Does not own: templates with other braces, or names with braces.
-/

namespace TileAtlas

namespace KeyLayout

/-! ## Pieces of a template -/

/-- The names that a template can hold between braces. -/
inductive Token where
  | tileset | grid | extension
  | column | invertedColumn
  | row | invertedRow
  | level | invertedLevel
  | dimensions
deriving DecidableEq, Repr

namespace Token

def text : Token → String
  | tileset => "\x7btileset\x7d"
  | grid => "\x7bgrid\x7d"
  | extension => "\x7bext\x7d"
  | column => "\x7bx\x7d"
  | invertedColumn => "\x7binv_x\x7d"
  | row => "\x7by\x7d"
  | invertedRow => "\x7binv_y\x7d"
  | level => "\x7bz\x7d"
  | invertedLevel => "\x7binv_z\x7d"
  | dimensions => "\x7bdim\x7d"

/-- A number is written for the token. -/
def IsNumeric : Token → Prop
  | column | invertedColumn | row | invertedRow | level | invertedLevel => True
  | tileset | grid | extension | dimensions => False

theorem isToken_text (token : Token) : IsToken token.text.toList := by
  have between (name : List Char) (opened : '\x7b' ∉ name) (closed : '\x7d' ∉ name) :
      IsToken ('\x7b' :: (name ++ ['\x7d'])) := ⟨name, rfl, opened, closed⟩
  cases token with
  | tileset => exact between ['t', 'i', 'l', 'e', 's', 'e', 't'] (by decide) (by decide)
  | grid => exact between ['g', 'r', 'i', 'd'] (by decide) (by decide)
  | extension => exact between ['e', 'x', 't'] (by decide) (by decide)
  | column => exact between ['x'] (by decide) (by decide)
  | invertedColumn => exact between ['i', 'n', 'v', '_', 'x'] (by decide) (by decide)
  | row => exact between ['y'] (by decide) (by decide)
  | invertedRow => exact between ['i', 'n', 'v', '_', 'y'] (by decide) (by decide)
  | level => exact between ['z'] (by decide) (by decide)
  | invertedLevel => exact between ['i', 'n', 'v', '_', 'z'] (by decide) (by decide)
  | dimensions => exact between ['d', 'i', 'm'] (by decide) (by decide)

theorem text_injective : Function.Injective fun token : Token => token.text.toList := by
  intro first second same
  have sameText : first.text = second.text := String.toList_injective same
  revert sameText
  cases first <;> cases second <;> simp [text]

end Token

/-- A text in which no token begins.  A closing brace alone does no harm. -/
structure PlainText where
  chars : List Char
  plain : '\x7b' ∉ chars
deriving DecidableEq

inductive Piece where
  | text (plain : PlainText)
  | token (token : Token)
deriving DecidableEq

def Piece.written : Piece → List Char
  | .text plain => plain.chars
  | .token name => name.text.toList

/-- The template that a row of pieces makes up. -/
def written (pieces : List Piece) : List Char := pieces.flatMap Piece.written

/-! ## One pass over the pieces -/

section Pass

variable {token value other before text : List Char}

theorem substituteFrom_append_of_plain (isToken : IsToken token) (plain : '\x7b' ∉ before) :
    substituteFrom token value 0 (before ++ text) =
      before ++ substituteFrom token value 0 text := by
  induction before with
  | nil => rfl
  | cons char before inductionHypothesis =>
      rw [List.mem_cons, not_or] at plain
      have notHere : ¬(Text.dropStart? token (char :: (before ++ text))).isSome = true := by
        obtain ⟨name, rfl, -, -⟩ := isToken
        rw [Text.isSome_dropStart?_iff, List.cons_prefix_cons]
        exact fun both => plain.1 both.1
      rw [List.cons_append, substituteFrom, if_neg notHere, inductionHypothesis plain.2]
      rfl

/-- The characters that are passed over leave no trace. -/
theorem substituteFrom_eq_drop (skip : Nat) :
    substituteFrom token value skip text = substituteFrom token value 0 (text.drop skip) := by
  induction text generalizing skip with
  | nil => cases skip <;> rfl
  | cons char rest inductionHypothesis =>
      cases skip with
      | zero => rfl
      | succ skip => exact inductionHypothesis skip

theorem substituteFrom_append_self (isToken : IsToken token) :
    substituteFrom token value 0 (token ++ text) = value ++ substituteFrom token value 0 text := by
  have matched : (Text.dropStart? token (token ++ text)).isSome = true :=
    Text.isSome_dropStart?_iff.mpr (List.prefix_append token text)
  obtain ⟨name, rfl, -, -⟩ := isToken
  rw [List.cons_append] at matched ⊢
  rw [substituteFrom, if_pos matched, substituteFrom_eq_drop]
  simp

theorem substituteFrom_append_of_ne (isToken : IsToken token) (isOther : IsToken other)
    (differ : other ≠ token) :
    substituteFrom token value 0 (other ++ text) = other ++ substituteFrom token value 0 text := by
  have notHere : ¬(Text.dropStart? token (other ++ text)).isSome = true := by
    rw [Text.isSome_dropStart?_iff]
    exact fun begins => differ (isOther.eq_of_prefix isToken begins).symm
  obtain ⟨name, rfl, opened, -⟩ := isOther
  have rest : '\x7b' ∉ name ++ ['\x7d'] := by simpa using opened
  rw [List.cons_append] at notHere ⊢
  rw [substituteFrom, if_neg notHere, substituteFrom_append_of_plain isToken rest]
  rfl

end Pass

/-- One pass writes its value for the pieces of its token. -/
theorem substitute_written (token : Token) (value : List Char) (pieces : List Piece) :
    substitute token.text value (written pieces) =
      pieces.flatMap fun piece => if piece = .token token then value else piece.written := by
  unfold substitute written
  induction pieces with
  | nil => rfl
  | cons piece pieces inductionHypothesis =>
      rw [List.flatMap_cons, List.flatMap_cons, ← inductionHypothesis]
      cases piece with
      | text plain =>
          rw [if_neg nofun]
          exact substituteFrom_append_of_plain token.isToken_text plain.plain
      | token other =>
          by_cases same : other = token
          · subst same
            rw [if_pos rfl]
            exact substituteFrom_append_self other.isToken_text
          · rw [if_neg fun equal => same (Piece.token.inj equal)]
            exact substituteFrom_append_of_ne token.isToken_text other.isToken_text
              (Token.text_injective.ne same)

theorem infix_written_iff {token : Token} {pieces : List Piece} :
    token.text.toList <:+: written pieces ↔ .token token ∈ pieces := by
  unfold written
  induction pieces with
  | nil =>
      obtain ⟨name, opened, -, -⟩ := token.isToken_text
      simp [opened]
  | cons piece pieces inductionHypothesis =>
      rw [List.flatMap_cons, List.mem_cons, ← inductionHypothesis]
      cases piece with
      | text plain =>
          obtain ⟨name, opened, -, -⟩ := token.isToken_text
          rw [or_iff_right nofun, opened]
          exact Text.infix_append_iff_of_not_mem plain.plain
      | token other =>
          by_cases same : token = other
          · subst same
            exact iff_of_true (List.infix_append' [] _ _) (.inl rfl)
          · rw [or_iff_right fun equal => same (Piece.token.inj equal)]
            exact other.isToken_text.infix_append_iff token.isToken_text
              (Token.text_injective.ne same)

/-- A piece after a pass. -/
def Piece.put (token : Token) (value : PlainText) : Piece → Piece
  | .text plain => .text plain
  | .token other => if other = token then .text value else .token other

/-- A pass with a plain value gives pieces again. -/
theorem substitute_put (token : Token) (value : PlainText) (pieces : List Piece) :
    substitute token.text value.chars (written pieces) =
      written (pieces.map (Piece.put token value)) := by
  rw [substitute_written, written, List.flatMap_map]
  congr 1
  funext piece
  cases piece with
  | text plain => rfl
  | token other => by_cases same : other = token <;> simp [Piece.put, Piece.written, same]

theorem token_mem_map_put_iff {token other : Token} {value : PlainText} {pieces : List Piece} :
    .token other ∈ pieces.map (Piece.put token value) ↔ .token other ∈ pieces ∧ other ≠ token := by
  rw [List.mem_map]
  constructor
  · rintro ⟨piece, member, same⟩
    cases piece with
    | text plain => cases same
    | token before =>
        rw [Piece.put] at same
        split at same
        · cases same
        · next differ =>
            cases same
            exact ⟨member, differ⟩
  · rintro ⟨member, differ⟩
    exact ⟨.token other, member, if_neg differ⟩

/-! ## All passes -/

/-- A number's digits and sign hold no token. -/
def decimalText (value : Nat) : PlainText where
  chars := decimal value
  plain := fun member => nomatch isDigit_of_mem_decimal member

def signedText (value : Int) : PlainText where
  chars := signedDecimal value
  plain := fun member => by rcases of_mem_signedDecimal member with digit | sign <;> contradiction

/-- A piece after the pass of an axis over a template that holds the plain token
or does not. -/
def Piece.putAxis (plain inverted : Token) (holdsPlain : Bool) (value : Nat) (invertedValue : Int)
    (piece : Piece) : Piece :=
  if holdsPlain then piece.put plain (decimalText value)
  else piece.put inverted (signedText invertedValue)

@[simp]
theorem Piece.put_text (token : Token) (value plain : PlainText) :
    (Piece.text plain).put token value = .text plain := rfl

@[simp]
theorem Piece.put_self (token : Token) (value : PlainText) :
    (Piece.token token).put token value = .text value := if_pos rfl

@[simp]
theorem Piece.put_of_ne {token other : Token} (differ : other ≠ token) (value : PlainText) :
    (Piece.token other).put token value = .token other := if_neg differ

section Axis

variable {plain inverted other : Token} {holdsPlain : Bool} {value : Nat} {invertedValue : Int}

@[simp]
theorem Piece.putAxis_text (text : PlainText) :
    (Piece.text text).putAxis plain inverted holdsPlain value invertedValue = .text text :=
  ite_self _

@[simp]
theorem Piece.putAxis_of_ne (notPlain : other ≠ plain) (notInverted : other ≠ inverted) :
    (Piece.token other).putAxis plain inverted holdsPlain value invertedValue = .token other := by
  rw [putAxis, put_of_ne notPlain, put_of_ne notInverted, ite_self]

@[simp]
theorem Piece.putAxis_plain :
    (Piece.token plain).putAxis plain inverted true value invertedValue =
      .text (decimalText value) := put_self plain _

@[simp]
theorem Piece.putAxis_inverted :
    (Piece.token inverted).putAxis plain inverted false value invertedValue =
      .text (signedText invertedValue) := put_self inverted _

@[simp]
theorem Piece.putAxis_inverted_of_plain (differ : inverted ≠ plain) :
    (Piece.token inverted).putAxis plain inverted true value invertedValue = .token inverted :=
  put_of_ne differ _

end Axis

theorem map_put_of_not_mem {token : Token} {value : PlainText} {pieces : List Piece}
    (absent : .token token ∉ pieces) : pieces.map (Piece.put token value) = pieces := by
  conv_rhs => rw [← List.map_id pieces]
  refine List.map_congr_left fun piece member => ?_
  cases piece with
  | text plain => rfl
  | token name =>
      have differ : name ≠ token := fun same => absent (same ▸ member)
      exact if_neg differ

/-- The pieces after the pass of an axis. -/
def afterAxis (plain inverted : Token) (value : Nat) (invertedValue : Int) (pieces : List Piece) :
    List Piece :=
  pieces.map (.putAxis plain inverted (.token plain ∈ pieces) value invertedValue)

theorem substituteAxis_written (plain inverted : Token) (value : Nat) (number : Int)
    {invertedValue : Except Error Int} {pieces : List Piece}
    (known : .token plain ∉ pieces → .token inverted ∈ pieces → invertedValue = .ok number) :
    substituteAxis plain.text inverted.text value invertedValue (written pieces) =
      .ok (written (afterAxis plain inverted value number pieces)) := by
  unfold substituteAxis afterAxis Piece.putAxis
  simp only [Text.holds_iff, infix_written_iff, decide_eq_true_eq]
  by_cases isPlain : .token plain ∈ pieces
  · simp only [if_pos isPlain]
    exact congrArg Except.ok (substitute_put plain (decimalText value) pieces)
  · simp only [if_neg isPlain]
    by_cases isInverted : .token inverted ∈ pieces
    · rw [if_pos isInverted, known isPlain isInverted]
      exact congrArg Except.ok (substitute_put inverted (signedText number) pieces)
    · rw [if_neg isInverted, map_put_of_not_mem isInverted]

theorem token_mem_afterAxis_iff {plain inverted other : Token} {value : Nat} {invertedValue : Int}
    {pieces : List Piece} (notPlain : other ≠ plain) (notInverted : other ≠ inverted) :
    .token other ∈ afterAxis plain inverted value invertedValue pieces ↔ .token other ∈ pieces := by
  unfold afterAxis Piece.putAxis
  split <;> simp only [token_mem_map_put_iff, notPlain, notInverted, ne_eq, not_false_eq_true,
    and_true]

/-- Earlier passes do not decide which token of an axis is replaced. -/
theorem afterAxis_eq_map {plain inverted : Token} {value : Nat} {invertedValue : Int}
    {pieces : List Piece} (earlier : List Piece)
    (same : .token plain ∈ pieces ↔ .token plain ∈ earlier) :
    afterAxis plain inverted value invertedValue pieces =
      pieces.map (.putAxis plain inverted (.token plain ∈ earlier) value invertedValue) := by
  simp only [afterAxis, same]

/-- A column or a row is to be written as counted from the other end. -/
def CountsFromEnd (pieces : List Piece) : Prop :=
  (.token .column ∉ pieces ∧ .token .invertedColumn ∈ pieces) ∨
    (.token .row ∉ pieces ∧ .token .invertedRow ∈ pieces)

theorem asksForLevel_written_iff {pieces : List Piece} :
    AsksForLevel (written pieces) ↔ CountsFromEnd pieces := by
  unfold AsksForLevel Inverts CountsFromEnd
  simp only [← infix_written_iff]
  rfl

/-- The names that a template takes in begin no token. -/
structure HasPlainNames (tile : TileCoordinate) (extension : String) : Prop where
  tileset : '\x7b' ∉ tile.tileset.toList
  grid : '\x7b' ∉ tile.grid.toList
  extension : '\x7b' ∉ extension.toList

section Names

variable {tile : TileCoordinate} {extension : String}

/-- The pieces after the passes of the names. -/
def afterNames (plain : HasPlainNames tile extension) (pieces : List Piece) : List Piece :=
  ((pieces.map (.put .tileset ⟨_, plain.tileset⟩)).map (.put .grid ⟨_, plain.grid⟩)).map
    (.put .extension ⟨_, plain.extension⟩)

theorem withNames_written (plain : HasPlainNames tile extension) (pieces : List Piece) :
    withNames (String.ofList (written pieces)) tile extension =
      written (afterNames plain pieces) := by
  unfold afterNames withNames
  rw [← substitute_put, ← substitute_put, ← substitute_put, String.toList_ofList]
  rfl

theorem token_mem_afterNames_iff {plain : HasPlainNames tile extension} {token : Token}
    {pieces : List Piece} :
    .token token ∈ afterNames plain pieces ↔
      .token token ∈ pieces ∧ token ≠ .tileset ∧ token ≠ .grid ∧ token ≠ .extension := by
  simp only [afterNames, token_mem_map_put_iff, and_assoc]

theorem token_mem_afterNames_iff_of_ne {plain : HasPlainNames tile extension} {token : Token}
    {pieces : List Piece} (notTileset : token ≠ .tileset) (notGrid : token ≠ .grid)
    (notExtension : token ≠ .extension) :
    .token token ∈ afterNames plain pieces ↔ .token token ∈ pieces := by
  simp only [token_mem_afterNames_iff, notTileset, notGrid, notExtension, ne_eq,
    not_false_eq_true, and_true]

theorem countsFromEnd_afterNames_iff {plain : HasPlainNames tile extension}
    {pieces : List Piece} : CountsFromEnd (afterNames plain pieces) ↔ CountsFromEnd pieces := by
  unfold CountsFromEnd
  rw [token_mem_afterNames_iff_of_ne (by decide) (by decide) (by decide),
    token_mem_afterNames_iff_of_ne (by decide) (by decide) (by decide),
    token_mem_afterNames_iff_of_ne (by decide) (by decide) (by decide),
    token_mem_afterNames_iff_of_ne (by decide) (by decide) (by decide)]

end Names

/-! ## All tokens at once -/

section Key

variable {α : Type} [Scalar α]

/-- What stands in a key for a token of a template, at a level of the given size.
The inverted token of an axis stays where the plain one occurs, and the token of
the dimensions where there are none. -/
def inscription (pieces : List Piece) (tile : TileCoordinate) (pyramid : Pyramid α)
    (size : Nat × Nat) (extension : String) : Token → List Char
  | .tileset => tile.tileset.toList
  | .grid => tile.grid.toList
  | .extension => extension.toList
  | .column => decimal tile.x
  | .invertedColumn =>
      if .token .column ∈ pieces then Token.invertedColumn.text.toList
      else signedDecimal ((size.1 : Int) - tile.x - 1)
  | .row => decimal tile.y
  | .invertedRow =>
      if .token .row ∈ pieces then Token.invertedRow.text.toList
      else signedDecimal ((size.2 : Int) - tile.y - 1)
  | .level => decimal tile.z
  | .invertedLevel =>
      if .token .level ∈ pieces then Token.invertedLevel.text.toList
      else signedDecimal ((pyramid.levelCount : Int) - tile.z - 1)
  | .dimensions =>
      if tile.dimensions = [] then Token.dimensions.text.toList
      else dimensionText tile.dimensions

def Piece.inscribed (pieces : List Piece) (tile : TileCoordinate) (pyramid : Pyramid α)
    (size : Nat × Nat) (extension : String) : Piece → List Char
  | .text plain => plain.chars
  | .token name => inscription pieces tile pyramid size extension name

variable {pieces : List Piece} {tile : TileCoordinate} {pyramid : Pyramid α} {size : Nat × Nat}
  {extension : String}

def afterColumns (plain : HasPlainNames tile extension) (size : Nat × Nat) (pieces : List Piece) :
    List Piece :=
  afterAxis .column .invertedColumn tile.x ((size.1 : Int) - tile.x - 1) (afterNames plain pieces)

def afterRows (plain : HasPlainNames tile extension) (size : Nat × Nat) (pieces : List Piece) :
    List Piece :=
  afterAxis .row .invertedRow tile.y ((size.2 : Int) - tile.y - 1) (afterColumns plain size pieces)

def afterLevels (plain : HasPlainNames tile extension) (pyramid : Pyramid α) (size : Nat × Nat)
    (pieces : List Piece) : List Piece :=
  afterAxis .level .invertedLevel tile.z ((pyramid.levelCount : Int) - tile.z - 1)
    (afterRows plain size pieces)

/-- The last pass writes the dimensions, if there are any. -/
def lastInscribed (tile : TileCoordinate) (piece : Piece) : List Char :=
  if piece = .token .dimensions ∧ tile.dimensions ≠ [] then dimensionText tile.dimensions
  else piece.written

theorem dimensions_written (levels : List Piece) :
    (if tile.dimensions = [] then written levels
      else substitute "\x7bdim\x7d" (dimensionText tile.dimensions) (written levels)) =
        levels.flatMap (lastInscribed tile) := by
  by_cases none : tile.dimensions = []
  · rw [if_pos none]
    exact List.flatMap_congr fun piece _ => (if_neg fun both => both.2 none).symm
  · rw [if_neg none]
    refine (substitute_written .dimensions _ levels).trans (List.flatMap_congr fun piece _ => ?_)
    simp only [lastInscribed, ne_eq, none, not_false_eq_true, and_true]

omit [Scalar α] in
theorem flatMap_afterLevels (plain : HasPlainNames tile extension) :
    (afterLevels plain pyramid size pieces).flatMap (lastInscribed tile) =
      pieces.flatMap (Piece.inscribed pieces tile pyramid size extension) := by
  have holdsColumn : .token .column ∈ afterNames plain pieces ↔ .token .column ∈ pieces :=
    token_mem_afterNames_iff_of_ne (by decide) (by decide) (by decide)
  have holdsRow : .token .row ∈ afterNames plain pieces ↔ .token .row ∈ pieces :=
    token_mem_afterNames_iff_of_ne (by decide) (by decide) (by decide)
  have holdsLevel : .token .level ∈ afterNames plain pieces ↔ .token .level ∈ pieces :=
    token_mem_afterNames_iff_of_ne (by decide) (by decide) (by decide)
  rw [afterLevels, afterRows, afterColumns, afterAxis_eq_map pieces, afterAxis_eq_map pieces,
    afterAxis_eq_map pieces]
  · unfold afterNames
    simp only [List.flatMap_map]
    -- each token is met by one pass, and the others leave its value as it is
    refine List.flatMap_congr fun piece member => ?_
    cases piece with
    | text plain => simp [lastInscribed, Piece.inscribed, Piece.written]
    | token name =>
        cases name with
        | invertedColumn =>
            by_cases isPlain : .token .column ∈ pieces <;>
              simp [lastInscribed, Piece.inscribed, inscription, Piece.written, signedText, isPlain]
        | invertedRow =>
            by_cases isPlain : .token .row ∈ pieces <;>
              simp [lastInscribed, Piece.inscribed, inscription, Piece.written, signedText, isPlain]
        | invertedLevel =>
            by_cases isPlain : .token .level ∈ pieces <;>
              simp [lastInscribed, Piece.inscribed, inscription, Piece.written, signedText, isPlain]
        | dimensions =>
            by_cases none : tile.dimensions = [] <;>
              simp [lastInscribed, Piece.inscribed, inscription, Piece.written, none]
        | column | row | level | tileset | grid | extension =>
            simp [lastInscribed, Piece.inscribed, inscription, Piece.written, decimalText, member]
  · exact holdsColumn
  · rw [token_mem_afterAxis_iff (by decide) (by decide), holdsRow]
  · rw [token_mem_afterAxis_iff (by decide) (by decide),
      token_mem_afterAxis_iff (by decide) (by decide), holdsLevel]

/-- The passes one after another replace all tokens at once. -/
theorem templateKey_written (plain : HasPlainNames tile extension)
    (known : CountsFromEnd pieces → pyramid.levelSize? tile.z = some size) :
    templateKey (String.ofList (written pieces)) tile pyramid extension =
      .ok (pieces.flatMap (Piece.inscribed pieces tile pyramid size extension)) := by
  have hasSize (asked : CountsFromEnd pieces) : levelSize tile pyramid = .ok size := by
    rw [levelSize, known asked]
  have columns : substituteAxis "\x7bx\x7d" "\x7binv_x\x7d" tile.x
      ((levelSize tile pyramid).map fun size => (size.1 : Int) - tile.x - 1)
      (withNames (String.ofList (written pieces)) tile extension) =
        .ok (written (afterColumns plain size pieces)) := by
    rw [withNames_written plain]
    refine substituteAxis_written .column .invertedColumn tile.x _ fun noPlain isInverted => ?_
    rw [token_mem_afterNames_iff_of_ne (by decide) (by decide) (by decide)] at noPlain isInverted
    rw [hasSize (.inl ⟨noPlain, isInverted⟩)]
    rfl
  have rows : substituteAxis "\x7by\x7d" "\x7binv_y\x7d" tile.y
      ((levelSize tile pyramid).map fun size => (size.2 : Int) - tile.y - 1)
      (written (afterColumns plain size pieces)) = .ok (written (afterRows plain size pieces)) := by
    refine substituteAxis_written .row .invertedRow tile.y _ fun noPlain isInverted => ?_
    rw [afterColumns, token_mem_afterAxis_iff (by decide) (by decide),
      token_mem_afterNames_iff_of_ne (by decide) (by decide) (by decide)] at noPlain isInverted
    rw [hasSize (.inr ⟨noPlain, isInverted⟩)]
    rfl
  have levels : substituteAxis "\x7bz\x7d" "\x7binv_z\x7d" tile.z
      (.ok ((pyramid.levelCount : Int) - tile.z - 1)) (written (afterRows plain size pieces)) =
        .ok (written (afterLevels plain pyramid size pieces)) :=
    substituteAxis_written .level .invertedLevel tile.z _ fun _ _ => rfl
  change (substituteAxis _ _ _ _ (withNames _ tile extension) >>= _) = _
  rw [columns]
  change (substituteAxis _ _ _ _ (written _) >>= _) = _
  rw [rows]
  change (substituteAxis _ _ _ _ (written _) >>= _) = _
  rw [levels]
  refine congrArg Except.ok ?_
  rw [← flatMap_afterLevels plain]
  exact dimensions_written (afterLevels plain pyramid size pieces)

end Key

/-! ## Numbers that end -/

/-- Behind these pieces a number goes on no further. -/
def EndsNumber : List Piece → Prop
  | [] => True
  | .text ⟨[], _⟩ :: pieces => EndsNumber pieces
  | .text ⟨char :: _, _⟩ :: _ => char.isDigit = false
  | .token _ :: _ => False

/-- Every token of a number is followed by the end or by a text that begins with no digit. -/
def NumbersEnd : List Piece → Prop
  | [] => True
  | .text _ :: pieces => NumbersEnd pieces
  | .token name :: pieces => (name.IsNumeric → EndsNumber pieces) ∧ NumbersEnd pieces

section Write

variable {first second : Piece → List Char} {pieces : List Piece}

theorem isDigit_head?_flatMap (texts : ∀ plain, first (.text plain) = plain.chars)
    (ends : EndsNumber pieces) : ∀ char ∈ (pieces.flatMap first).head?, char.isDigit = false := by
  induction pieces with
  | nil => simp
  | cons piece pieces inductionHypothesis =>
      cases piece with
      | token name => exact ends.elim
      | text plain =>
          obtain ⟨chars, noBrace⟩ := plain
          rw [List.flatMap_cons, texts]
          cases chars with
          | nil => exact inductionHypothesis ends
          | cons char chars =>
              change char.isDigit = false at ends
              simpa using ends

/-- Digits before something else are told by the text. -/
theorem digits_append_eq {digits otherDigits rest otherRest : List Char}
    (areDigits : ∀ char ∈ digits, char.isDigit = true)
    (otherAreDigits : ∀ char ∈ otherDigits, char.isDigit = true)
    (ends : ∀ char ∈ rest.head?, char.isDigit = false)
    (otherEnds : ∀ char ∈ otherRest.head?, char.isDigit = false)
    (same : digits ++ rest = otherDigits ++ otherRest) :
    digits = otherDigits ∧ rest = otherRest := by
  have takes {digits rest : List Char} (areDigits : ∀ char ∈ digits, char.isDigit = true)
      (ends : ∀ char ∈ rest.head?, char.isDigit = false) :
      (digits ++ rest).takeWhile Char.isDigit = digits := by
    rw [List.takeWhile_append_of_pos areDigits]
    cases rest with
    | nil => simp
    | cons char rest => simp [ends char rfl]
  have sameDigits : digits = otherDigits := by
    rw [← takes areDigits ends, same, takes otherAreDigits otherEnds]
  exact ⟨sameDigits, List.append_cancel_left (sameDigits ▸ same)⟩

/-- Two ways to write the tokens that write the same for every token without a
number, and digits for the others where they differ. -/
theorem eq_of_flatMap_eq (texts : ∀ plain, first (.text plain) = plain.chars)
    (otherTexts : ∀ plain, second (.text plain) = plain.chars)
    (tokens : ∀ name, first (.token name) = second (.token name) ∨ name.IsNumeric ∧
      (∀ char ∈ first (.token name), char.isDigit = true) ∧
        ∀ char ∈ second (.token name), char.isDigit = true)
    (ends : NumbersEnd pieces) (same : pieces.flatMap first = pieces.flatMap second) :
    ∀ piece ∈ pieces, first piece = second piece := by
  induction pieces with
  | nil => simp
  | cons piece pieces inductionHypothesis =>
      rw [List.flatMap_cons, List.flatMap_cons] at same
      rw [List.forall_mem_cons]
      cases piece with
      | text plain =>
          rw [texts, otherTexts] at same ⊢
          exact ⟨rfl, inductionHypothesis ends (List.append_cancel_left same)⟩
      | token name =>
          obtain ⟨numberEnds, ends⟩ := ends
          rcases tokens name with sameToken | ⟨isNumeric, areDigits, otherAreDigits⟩
          · rw [sameToken] at same
            exact ⟨sameToken, inductionHypothesis ends (List.append_cancel_left same)⟩
          · have split := digits_append_eq areDigits otherAreDigits
              (isDigit_head?_flatMap texts (numberEnds isNumeric))
              (isDigit_head?_flatMap otherTexts (numberEnds isNumeric)) same
            exact ⟨split.1, inductionHypothesis ends split.2⟩

end Write

/-! ## Tiles of a grid -/

/-- The tile of the same tileset and dimensions at another place. -/
def movedTo (tile : TileCoordinate) (place : TileIndex) : TileCoordinate :=
  { tile with z := place.z, x := place.x, y := place.y }

theorem HasPlainNames.movedTo {tile : TileCoordinate} {extension : String}
    (plain : HasPlainNames tile extension) (place : TileIndex) :
    HasPlainNames (movedTo tile place) extension := ⟨plain.tileset, plain.grid, plain.extension⟩

/-- All three numbers of a place occur, and each ends where its token does. -/
structure SetsNumbersApart (pieces : List Piece) : Prop where
  columns : .token .column ∈ pieces ∨ .token .invertedColumn ∈ pieces
  rows : .token .row ∈ pieces ∨ .token .invertedRow ∈ pieces
  levels : .token .level ∈ pieces ∨ .token .invertedLevel ∈ pieces
  numbersEnd : NumbersEnd pieces

/-- Counted from the other end, an index of the count is no negative number. -/
theorem signedDecimal_opposite {count index : Nat} (inside : index < count) :
    signedDecimal ((count : Int) - index - 1) = decimal (count - index - 1) := by
  have notNegative : (count : Int) - index - 1 = ((count - index - 1 : Nat) : Int) := by omega
  rw [notNegative]
  exact if_neg (by omega)

theorem isDigit_of_mem_opposite {count index : Nat} (inside : index < count) :
    ∀ char ∈ signedDecimal ((count : Int) - index - 1), char.isDigit = true := by
  rw [signedDecimal_opposite inside]
  exact fun char member => isDigit_of_mem_decimal member

theorem kept_eq_or_digits {kept digits otherDigits : List Char} {keeps : Prop} [Decidable keeps]
    (areDigits : ∀ char ∈ digits, char.isDigit = true)
    (otherAreDigits : ∀ char ∈ otherDigits, char.isDigit = true) :
    (if keeps then kept else digits) = (if keeps then kept else otherDigits) ∨
      (∀ char ∈ if keeps then kept else digits, char.isDigit = true) ∧
        ∀ char ∈ if keeps then kept else otherDigits, char.isDigit = true := by
  by_cases isKept : keeps
  · exact .inl (by rw [if_pos isKept, if_pos isKept])
  · rw [if_neg isKept, if_neg isKept]
    exact .inr ⟨areDigits, otherAreDigits⟩

/-- An index is told by its value, in whichever of its two forms it is written. -/
theorem index_eq {pieces : List Piece} {plain inverted : Token} {count index other : Nat}
    {kept : List Char} (inside : index < count) (otherInside : other < count)
    (occurs : .token plain ∈ pieces ∨ .token inverted ∈ pieces)
    (samePlain : .token plain ∈ pieces → decimal index = decimal other)
    (sameInverted : .token inverted ∈ pieces →
      (if .token plain ∈ pieces then kept else signedDecimal ((count : Int) - index - 1)) =
        if .token plain ∈ pieces then kept else signedDecimal ((count : Int) - other - 1)) :
    index = other := by
  by_cases isPlain : .token plain ∈ pieces
  · exact isNaming_decimal.injective (samePlain isPlain)
  · have same := sameInverted (occurs.resolve_left isPlain)
    rw [if_neg isPlain, if_neg isPlain, signedDecimal_opposite inside,
      signedDecimal_opposite otherInside] at same
    have opposite := isNaming_decimal.injective same
    omega

section Places

variable {α : Type} [Scalar α] {pieces : List Piece} {tile : TileCoordinate} {pyramid : Pyramid α}
  {extension : String} {place other : TileIndex} {size otherSize : Nat × Nat}

/-- A place of the pyramid at a level of the given size. -/
structure IsPlace (pyramid : Pyramid α) (size : Nat × Nat) (place : TileIndex) : Prop where
  level : pyramid.levelSize? place.z = some size
  column : place.x < size.1
  row : place.y < size.2

theorem IsPlace.lt_levelCount (isPlace : IsPlace pyramid size place) :
    place.z < pyramid.levelCount := by
  have level := isPlace.level
  unfold Pyramid.levelSize? Pyramid.resolution? at level
  obtain ⟨resolution, found, -⟩ := Option.map_eq_some_iff.mp level
  exact (List.getElem?_eq_some_iff.mp found).1

/-- At two places a token stays what it is, or digits are written for it. -/
theorem inscription_eq_or_digits (isPlace : IsPlace pyramid size place)
    (isOther : IsPlace pyramid otherSize other) (name : Token) :
    inscription pieces (movedTo tile place) pyramid size extension name =
        inscription pieces (movedTo tile other) pyramid otherSize extension name ∨
      name.IsNumeric ∧
        (∀ char ∈ inscription pieces (movedTo tile place) pyramid size extension name,
          char.isDigit = true) ∧
        ∀ char ∈ inscription pieces (movedTo tile other) pyramid otherSize extension name,
          char.isDigit = true := by
  have digits (value : Nat) : ∀ char ∈ decimal value, char.isDigit = true :=
    fun _ member => isDigit_of_mem_decimal member
  cases name with
  | tileset | grid | extension | dimensions => exact .inl rfl
  | column | row | level => exact .inr ⟨trivial, digits _, digits _⟩
  | invertedColumn =>
      exact (kept_eq_or_digits (isDigit_of_mem_opposite isPlace.column)
        (isDigit_of_mem_opposite isOther.column)).imp_right fun both => ⟨trivial, both⟩
  | invertedRow =>
      exact (kept_eq_or_digits (isDigit_of_mem_opposite isPlace.row)
        (isDigit_of_mem_opposite isOther.row)).imp_right fun both => ⟨trivial, both⟩
  | invertedLevel =>
      exact (kept_eq_or_digits (isDigit_of_mem_opposite isPlace.lt_levelCount)
        (isDigit_of_mem_opposite isOther.lt_levelCount)).imp_right fun both => ⟨trivial, both⟩

theorem place_eq_of_inscribed_eq (apart : SetsNumbersApart pieces)
    (isPlace : IsPlace pyramid size place) (isOther : IsPlace pyramid otherSize other)
    (same : pieces.flatMap (Piece.inscribed pieces (movedTo tile place) pyramid size extension) =
      pieces.flatMap (Piece.inscribed pieces (movedTo tile other) pyramid otherSize extension)) :
    place = other := by
  have pieceSame := eq_of_flatMap_eq (fun _ => rfl) (fun _ => rfl)
    (inscription_eq_or_digits isPlace isOther) apart.numbersEnd same
  have levels : place.z = other.z :=
    index_eq isPlace.lt_levelCount isOther.lt_levelCount apart.levels (pieceSame _) (pieceSame _)
  have sizes : size = otherSize :=
    Option.some.inj (isPlace.level.symm.trans ((congrArg _ levels).trans isOther.level))
  subst sizes
  have columns : place.x = other.x :=
    index_eq isPlace.column isOther.column apart.columns (pieceSame _) (pieceSame _)
  have rows : place.y = other.y :=
    index_eq isPlace.row isOther.row apart.rows (pieceSame _) (pieceSame _)
  cases place
  cases other
  simp_all

/-- The key of a template of texts and tokens: all tokens at once, or an error
where an inverted column or row needs a level that the pyramid does not have.
Where the numbers stand apart, each tile of the pyramid has a key of its own. -/
theorem key_of_pieces (pieces : List Piece) (tile : TileCoordinate) (pyramid : Pyramid α)
    (extension : Option String)
    (plain : HasPlainNames tile (extension.getD plainExtension)) :
    (∀ size, (CountsFromEnd pieces → pyramid.levelSize? tile.z = some size) →
      (template (String.ofList (written pieces))).key tile pyramid extension =
        .ok (String.ofList (pieces.flatMap
          (Piece.inscribed pieces tile pyramid size (extension.getD plainExtension))))) ∧
    (∀ error, (template (String.ofList (written pieces))).key tile pyramid extension =
        .error error ↔
      CountsFromEnd pieces ∧ pyramid.levelSize? tile.z = none ∧
        error = .config (.levelOutsideGrid tile.z pyramid.name)) ∧
    (SetsNumbersApart pieces →
      ∀ place other, pyramid.HasTile place → pyramid.HasTile other → place ≠ other →
        ∃ key otherKey,
          (template (String.ofList (written pieces))).key (movedTo tile place) pyramid extension =
              .ok key ∧
          (template (String.ofList (written pieces))).key (movedTo tile other) pyramid extension =
              .ok otherKey ∧
          key ≠ otherKey) := by
  have written_eq {tile : TileCoordinate} {size : Nat × Nat}
      (plain : HasPlainNames tile (extension.getD plainExtension))
      (known : CountsFromEnd pieces → pyramid.levelSize? tile.z = some size) :
      (template (String.ofList (written pieces))).key tile pyramid extension =
        .ok (String.ofList (pieces.flatMap
          (Piece.inscribed pieces tile pyramid size (extension.getD plainExtension)))) := by
    rw [key, templateKey_written plain known]
    rfl
  refine ⟨fun size known => written_eq plain known, fun error => ?_, ?_⟩
  · rw [key_eq_error_iff]
    simp only [template.injEq, exists_eq_left', withNames_written plain, asksForLevel_written_iff,
      countsFromEnd_afterNames_iff]
  · rintro apart place other ⟨columns, rows, level, inX, inY⟩
      ⟨otherColumns, otherRows, otherLevel, otherInX, otherInY⟩ differ
    refine ⟨_, _, written_eq (plain.movedTo place) fun _ => level,
      written_eq (plain.movedTo other) fun _ => otherLevel, fun same => differ ?_⟩
    exact place_eq_of_inscribed_eq apart ⟨level, inX, inY⟩ ⟨otherLevel, otherInX, otherInY⟩
      (String.ofList_injective same)

/-- A template with an inverted column, and rows counted from both ends. -/
def turnedPieces : List Piece :=
  [.token .level, .text ⟨['/'], by decide⟩, .token .invertedColumn, .text ⟨['-'], by decide⟩,
    .token .row, .text ⟨['_'], by decide⟩, .token .invertedRow, .text ⟨['.'], by decide⟩,
    .token .extension, .token .dimensions]

/-- A tile with a token in the value of a dimension. -/
def bracedTile : TileCoordinate := ⟨"relief", "WGS84", 3, 2, 1, [("time", "\x7bx\x7d.1")]⟩

theorem key_of_turnedPieces :
    HasPlainNames bracedTile "png" ∧
      (template (String.ofList (written turnedPieces))).key bracedTile
        (Pyramid.wgs84 : Pyramid Float) (some "png") =
          .ok "3/13-1_\x7binv_y\x7d.png#time#\x7bx\x7d#1" ∧
      (template (String.ofList (written turnedPieces))).key (movedTo bracedTile ⟨18, 2, 1⟩)
        (Pyramid.wgs84 : Pyramid Float) (some "png") =
          .error (.config (.levelOutsideGrid 18 "WGS84")) ∧
      ∃ key otherKey,
        (template (String.ofList (written turnedPieces))).key (movedTo bracedTile ⟨3, 2, 1⟩)
          (Pyramid.wgs84 : Pyramid Float) (some "png") = .ok key ∧
        (template (String.ofList (written turnedPieces))).key (movedTo bracedTile ⟨3, 13, 1⟩)
          (Pyramid.wgs84 : Pyramid Float) (some "png") = .ok otherKey ∧
        key ≠ otherKey := by
  have plain : HasPlainNames bracedTile "png" := ⟨by decide, by decide, by decide⟩
  have size : (Pyramid.wgs84 : Pyramid Float).levelSize? 3 = some (16, 8) := by decide +kernel
  have missing : (Pyramid.wgs84 : Pyramid Float).levelSize? 18 = none := by decide +kernel
  have apart : SetsNumbersApart turnedPieces :=
    ⟨by decide, by decide, by decide,
      fun _ => rfl, fun _ => rfl, fun _ => rfl, fun _ => rfl, nofun, nofun, trivial⟩
  obtain ⟨keys, -, places⟩ := key_of_pieces turnedPieces bracedTile
    (Pyramid.wgs84 : Pyramid Float) (some "png") plain
  obtain ⟨-, errors, -⟩ := key_of_pieces turnedPieces (movedTo bracedTile ⟨18, 2, 1⟩)
    (Pyramid.wgs84 : Pyramid Float) (some "png") (plain.movedTo _)
  refine ⟨plain, ?_, ?_, ?_⟩
  · refine (keys (16, 8) fun _ => size).trans ?_
    rfl
  · refine (errors _).mpr ⟨.inl ⟨by decide, by decide⟩, missing, rfl⟩
  · exact places apart ⟨3, 2, 1⟩ ⟨3, 13, 1⟩ ⟨16, 8, size, by decide, by decide⟩
      ⟨16, 8, size, by decide, by decide⟩ (by decide)

end Places

end KeyLayout

end TileAtlas
