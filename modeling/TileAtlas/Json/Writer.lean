import TileAtlas.Json.Value

/-!
Contract: JSON values as documents.

Owns:
- `JsonValue.compact`, without any blank;
- `JsonValue.pretty`, one member or item per line, two blanks per level;
- the values of texts and numbers.

A number that is not finite is written as `null`.
-/

namespace TileAtlas.JsonValue

def ofText (content : String) : JsonValue := .text (some content)

def ofNat (count : Nat) : JsonValue := .number (.ofNat count)

def ofInt (value : Int) : JsonValue := .number (.ofInt value)

def ofDecimal (text : Option String) : JsonValue :=
  match text.bind fun written => Json.Numeral.read? written.toList with
  | some numeral => .number numeral
  | none => .null

def ofFloat (value : Float) : JsonValue := ofDecimal (Shortest.ofFloat? value)

def ofFloat32 (value : Float32) : JsonValue := ofDecimal (Shortest.ofFloat32? value)

def ofMembers (members : List (String × JsonValue)) : JsonValue :=
  .object (members.map fun member => (some member.1, member.2))

/-- A string between its quotes.  One that has no text is half a surrogate
pair. -/
def quotedText : Option String → String
  | some content => "\"" ++ Json.escape content ++ "\""
  | none => "\"\\ud800\""

def boolText (value : Bool) : String := if value then "true" else "false"

mutual

def appendCompact (out : String) : JsonValue → String
  | .null => out ++ "null"
  | .bool value => out ++ boolText value
  | .number numeral => out ++ numeral.text
  | .text content => out ++ quotedText content
  | .array items => appendItems (out ++ "[") "" items ++ "]"
  | .object members => appendMembers (out ++ "\x7b") "" members ++ "\x7d"

def appendItems (out comma : String) : List JsonValue → String
  | [] => out
  | item :: rest => appendItems (appendCompact (out ++ comma) item) "," rest

def appendMembers (out comma : String) : List (Option String × JsonValue) → String
  | [] => out
  | (name, value) :: rest =>
      appendMembers (appendCompact (out ++ comma ++ quotedText name ++ ":") value) "," rest

end

def compact (value : JsonValue) : String := appendCompact "" value

def newLine (level : Nat) : String := "\n" ++ String.ofList (List.replicate (2 * level) ' ')

mutual

/-- Append the document of a value whose lines are `level` deep. -/
def appendPretty (out : String) (level : Nat) : JsonValue → String
  | .null => out ++ "null"
  | .bool value => out ++ boolText value
  | .number numeral => out ++ numeral.text
  | .text content => out ++ quotedText content
  | .array [] => out ++ "[]"
  | .array (item :: rest) =>
      appendPrettyItems (out ++ "[") (level + 1) "" (item :: rest) ++ newLine level ++ "]"
  | .object [] => out ++ "\x7b\x7d"
  | .object (member :: rest) =>
      appendPrettyMembers (out ++ "\x7b") (level + 1) "" (member :: rest) ++ newLine level ++ "\x7d"

def appendPrettyItems (out : String) (level : Nat) (comma : String) : List JsonValue → String
  | [] => out
  | item :: rest =>
      appendPrettyItems (appendPretty (out ++ comma ++ newLine level) level item) level "," rest

def appendPrettyMembers (out : String) (level : Nat) (comma : String) :
    List (Option String × JsonValue) → String
  | [] => out
  | (name, value) :: rest =>
      appendPrettyMembers
        (appendPretty (out ++ comma ++ newLine level ++ quotedText name ++ ": ") level value)
        level "," rest

end

/-- The document of a value over several lines. -/
def pretty (value : JsonValue) : String := appendPretty "" 0 value

end TileAtlas.JsonValue
