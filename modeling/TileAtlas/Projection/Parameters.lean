import TileAtlas.Projection.Angle
import TileAtlas.Text.Alphanumeric
import TileAtlas.Text.Blank

/-!
Contract: parameter strings such as `+proj=utm +zone=33 +south`, as names with
values.

Owns:
- `DefinitionFault`, every reason to refuse a string;
- `Parameters.ofText`, the grammar;
- the readers of flags, numbers, angles and words.

A word with a plus sign in front is a parameter; other words, and quoted texts,
are remarks that are passed over.  Blanks may surround the equals sign.  A value
is a word or a quoted text; a quote that has another character of the word
behind it is part of the text.  Of two parameters with one name the first
counts.
-/

namespace TileAtlas

/-- Why a parameter string is refused. -/
inductive DefinitionFault where
  | unnamedParameter
  | parameterName (name : String)
  | missingValue (parameter : String)
  | unclosedQuote (parameter : String)
  | unclosedRemark
  | malformedFlag (parameter : String)
  | malformedNumber (parameter : String)
  | malformedAngle (parameter : String)
  | missingProjection
  | unknownProjection (name : String)
  | unknownEllipsoid (name : String)
  | unknownDatum (name : String)
  | unknownUnit (name : String)
  | unknownMeridian (name : String)
  | unknownAxes (text : String)
  | semiMajorAxis
  | ellipsoidShape
  | shiftParameters
  | missingGrid (name : String)
  | trueScaleLatitude
  | zoneRange
  | sphericalFigure
  | standardParallels
  | satelliteHeight
deriving DecidableEq, Repr

def DefinitionFault.message : DefinitionFault → String
  | .unnamedParameter => "a parameter has no name"
  | .parameterName name => "the name " ++ name ++ " goes on with a character no name has"
  | .missingValue parameter => "the parameter " ++ parameter ++ " has no value"
  | .unclosedQuote parameter => "the quoted value of " ++ parameter ++ " does not end"
  | .unclosedRemark => "a quoted remark does not end"
  | .malformedFlag parameter => "the value of " ++ parameter ++ " is neither true nor false"
  | .malformedNumber parameter => "the value of " ++ parameter ++ " is not a number"
  | .malformedAngle parameter => "the value of " ++ parameter ++ " is not an angle"
  | .missingProjection => "no projection is named"
  | .unknownProjection name => "unknown projection " ++ name
  | .unknownEllipsoid name => "unknown ellipsoid " ++ name
  | .unknownDatum name => "unknown datum " ++ name
  | .unknownUnit name => "unknown unit " ++ name
  | .unknownMeridian name => "unknown prime meridian " ++ name
  | .unknownAxes text => "unknown axes " ++ text
  | .semiMajorAxis => "the semi-major axis is not a positive number"
  | .ellipsoidShape => "the shape is not that of an oblate ellipsoid"
  | .shiftParameters => "a datum shift has three or seven numbers"
  | .missingGrid name => "the grid " ++ name ++ " is not at hand"
  | .trueScaleLatitude => "the latitude of true scale lies beyond the pole"
  | .zoneRange => "the zone is not one of 1 to 60"
  | .sphericalFigure => "the projection needs an ellipsoid"
  | .standardParallels => "the standard parallels are opposite"
  | .satelliteHeight => "the height of the satellite is not positive"

/-- Parameters in the order they are written; a bare name has no value. -/
structure Parameters where
  entries : List (String × Option String)
deriving DecidableEq, Repr

namespace Parameters

def isNameChar (char : Char) : Bool := Text.isAlphanumeric char || char == '_'

def isWordChar (char : Char) : Bool := !Text.isBlank char

/-- Split a quoted text from what follows it.  Its closing quote is the first
one that ends a word. -/
def splitQuoted? : List Char → Option (List Char × List Char)
  | [] => none
  | char :: rest =>
      if char = '"' ∧ !(rest.head?.any isWordChar) then some ([], rest)
      else (splitQuoted? rest).map fun (quoted, after) => (char :: quoted, after)

/-- Read the value after an equals sign and blanks, and what follows it. -/
def readValue (name : String) (text : List Char) :
    Except DefinitionFault (String × List Char) :=
  match text with
  | [] => .error (.missingValue name)
  | '"' :: body =>
      match splitQuoted? body with
      | none => .error (.unclosedQuote name)
      | some ([], _) => .error (.missingValue name)
      | some (quoted, rest) => .ok (String.ofList quoted, rest)
  | word => .ok (String.ofList (word.takeWhile isWordChar), word.dropWhile isWordChar)

/-- Read a parameter after its plus sign, and what follows it. -/
def readEntry (text : List Char) :
    Except DefinitionFault ((String × Option String) × List Char) :=
  let name := String.ofList (text.takeWhile isNameChar)
  let afterName := text.dropWhile isNameChar
  if text.takeWhile isNameChar = [] then .error .unnamedParameter
  else
    match afterName.dropWhile Text.isBlank with
    | '=' :: value =>
        (readValue name (value.dropWhile Text.isBlank)).map fun (word, rest) =>
          ((name, some word), rest)
    | rest =>
        if afterName = [] ∨ rest ≠ afterName then .ok ((name, none), rest)
        else .error (.parameterName name)

private theorem length_dropWhile_le {α : Type} (holds : α → Bool) (items : List α) :
    (items.dropWhile holds).length ≤ items.length :=
  (List.dropWhile_sublist holds).length_le

/-- What follows a quoted text is shorter than both together. -/
theorem length_lt_of_splitQuoted? {text quoted rest : List Char}
    (split : splitQuoted? text = some (quoted, rest)) : rest.length < text.length := by
  induction text generalizing quoted with
  | nil => simp [splitQuoted?] at split
  | cons char text inductionHypothesis =>
      unfold splitQuoted? at split
      split at split
      · simp only [Option.some.injEq, Prod.mk.injEq] at split
        rw [← split.2]
        exact Nat.lt_succ_self _
      · obtain ⟨⟨inner, after⟩, found, equal⟩ := Option.map_eq_some_iff.1 split
        obtain ⟨_, rfl⟩ := Prod.mk.inj equal
        have shorter := inductionHypothesis found
        rw [List.length_cons]
        omega

/-- A value leaves no more than it was read from. -/
theorem length_le_of_readValue {name : String} {text rest : List Char} {value : String}
    (read : readValue name text = .ok (value, rest)) : rest.length ≤ text.length := by
  unfold readValue at read
  split at read
  · contradiction
  · split at read
    · contradiction
    · contradiction
    · rename_i found
      have shorter := length_lt_of_splitQuoted? found
      simp only [Except.ok.injEq, Prod.mk.injEq] at read
      rw [← read.2, List.length_cons]
      omega
  · simp only [Except.ok.injEq, Prod.mk.injEq] at read
    rw [← read.2]
    exact length_dropWhile_le _ _

/-- A parameter leaves no more than it was read from. -/
theorem length_le_of_readEntry {text rest : List Char} {entry : String × Option String}
    (read : readEntry text = .ok (entry, rest)) : rest.length ≤ text.length := by
  have afterName := length_dropWhile_le isNameChar text
  have afterBlanks := length_dropWhile_le Text.isBlank (text.dropWhile isNameChar)
  unfold readEntry at read
  simp only at read
  split at read
  · contradiction
  · split at read
    · rename_i value found
      rw [found] at afterBlanks
      have beforeValue := length_dropWhile_le Text.isBlank value
      cases parsed : readValue (String.ofList (text.takeWhile isNameChar))
          (value.dropWhile Text.isBlank) with
      | error fault => simp [parsed, Except.map] at read
      | ok result =>
          obtain ⟨word, left⟩ := result
          have shorter := length_le_of_readValue parsed
          simp only [parsed, Except.map, Except.ok.injEq, Prod.mk.injEq] at read
          rw [← read.2]
          simp only [List.length_cons] at afterBlanks
          omega
    · split at read
      · simp only [Except.ok.injEq, Prod.mk.injEq] at read
        rw [← read.2]
        omega
      · contradiction

def entriesOf (text : List Char) : Except DefinitionFault (List (String × Option String)) :=
  match _start : text.dropWhile Text.isBlank with
  | [] => .ok []
  | '+' :: body =>
      match _read : readEntry body with
      | .error fault => .error fault
      | .ok (entry, rest) => (entriesOf rest).map fun entries => entry :: entries
  | '"' :: body =>
      match _split : splitQuoted? body with
      | none => .error .unclosedRemark
      | some (_, rest) => entriesOf rest
  | _ :: word => entriesOf (word.dropWhile isWordChar)
termination_by text.length
decreasing_by
  all_goals
    have fromStart := length_dropWhile_le Text.isBlank text
    rw [_start, List.length_cons] at fromStart
  · have afterEntry := length_le_of_readEntry _read
    omega
  · have afterRemark := length_lt_of_splitQuoted? _split
    omega
  · have afterWord := length_dropWhile_le isWordChar word
    omega

def ofText (text : String) : Except DefinitionFault Parameters :=
  (entriesOf text.toList).map Parameters.mk

def has (given : Parameters) (name : String) : Bool := (given.entries.lookup name).isSome

/-- The value of a parameter, which must have one if it is given. -/
def text? (given : Parameters) (name : String) : Except DefinitionFault (Option String) :=
  match given.entries.lookup name with
  | none => .ok none
  | some none => .error (.missingValue name)
  | some (some value) => .ok (some value)

/-- A flag: set by its name alone, or as its value says. -/
def flag (given : Parameters) (name : String) : Except DefinitionFault Bool :=
  match given.entries.lookup name with
  | none => .ok false
  | some none => .ok true
  | some (some value) =>
      if value = "true" then .ok true
      else if value = "false" then .ok false
      else .error (.malformedFlag name)

def number? (given : Parameters) (name : String) : Except DefinitionFault (Option Float) := do
  match ← given.text? name with
  | none => return none
  | some text =>
      match Decimal.readFloat? text.toList with
      | some number => return some number
      | none => throw (.malformedNumber name)

def numberOr (given : Parameters) (name : String) (default : Float) :
    Except DefinitionFault Float := do
  return (← given.number? name).getD default

/-- The angle of a parameter that is given, in radians. -/
def angle? (given : Parameters) (name : String) : Except DefinitionFault (Option Float) := do
  match ← given.text? name with
  | none => return none
  | some text =>
      match Angle.read? text.toList with
      | some angle => return some angle
      | none => throw (.malformedAngle name)

def angleOr (given : Parameters) (name : String) (default : Float) :
    Except DefinitionFault Float := do
  return (← given.angle? name).getD default

/-- What a table holds under a name in any case. -/
def named? {α : Type} (table : List (String × α)) (name : String) : Option α :=
  (table.find? fun row => row.1.toLower == name.toLower).map Prod.snd

end Parameters

end TileAtlas
