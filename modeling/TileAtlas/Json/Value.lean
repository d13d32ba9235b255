import TileAtlas.Json.Token
import TileAtlas.Number.Shortest

/-!
Contract: JSON documents as values.

Owns:
- `JsonValue`, the value of a document;
- `JsonValue.ofTokens?`, which keeps the open containers on a list, so that
  nesting has no limit;
- `JsonValue.ofBytes?`, a whole document.

Members of an object stay in order, repeated names included.
-/

namespace TileAtlas

/-- The value of a document.  A name or a string that denotes no text is kept
as such. -/
inductive JsonValue where
  | null
  | bool (value : Bool)
  | number (numeral : Json.Numeral)
  | text (content : Option String)
  | array (items : List JsonValue)
  | object (members : List (Option String × JsonValue))

namespace JsonValue

/-- A container that is being read; its contents are reversed. -/
inductive Frame where
  | array (items : List JsonValue)
  | object (members : List (Option String × JsonValue)) (name : Option String)

/-- What may come next. -/
inductive Place where
  /-- A value. -/
  | value
  /-- A value, or the end of an empty array. -/
  | firstItem
  /-- A name, or the end of an empty object. -/
  | firstName
  /-- A name in an object with these members. -/
  | name (members : List (Option String × JsonValue))
  /-- The colon after a name. -/
  | colon (members : List (Option String × JsonValue)) (name : Option String)
  /-- What follows a complete value. -/
  | after (value : JsonValue)

/-- A document that is being read. -/
structure Build where
  place : Place
  frames : List Frame

namespace Build

def start : Build := ⟨.value, []⟩

def beginValue (frames : List Frame) : Json.Token → Option Build
  | .null => some ⟨.after .null, frames⟩
  | .bool value => some ⟨.after (.bool value), frames⟩
  | .numeral numeral => some ⟨.after (.number numeral), frames⟩
  | .text content => some ⟨.after (.text content), frames⟩
  | .openBracket => some ⟨.firstItem, frames⟩
  | .openBrace => some ⟨.firstName, frames⟩
  | _ => none

def afterValue (value : JsonValue) : List Frame → Json.Token → Option Build
  | .array items :: frames, .comma => some ⟨.value, .array (value :: items) :: frames⟩
  | .array items :: frames, .closeBracket =>
      some ⟨.after (.array (value :: items).reverse), frames⟩
  | .object members name :: frames, .comma => some ⟨.name ((name, value) :: members), frames⟩
  | .object members name :: frames, .closeBrace =>
      some ⟨.after (.object ((name, value) :: members).reverse), frames⟩
  | _, _ => none

def step (build : Build) (token : Json.Token) : Option Build :=
  match build.place, token with
  | .value, token => beginValue build.frames token
  | .firstItem, .closeBracket => some ⟨.after (.array []), build.frames⟩
  | .firstItem, token => beginValue (.array [] :: build.frames) token
  | .firstName, .closeBrace => some ⟨.after (.object []), build.frames⟩
  | .firstName, .text name => some ⟨.colon [] name, build.frames⟩
  | .name members, .text name => some ⟨.colon members name, build.frames⟩
  | .colon members name, .colon => some ⟨.value, .object members name :: build.frames⟩
  | .after value, token => afterValue value build.frames token
  | _, _ => none

def finish : Build → Option JsonValue
  | ⟨.after value, []⟩ => some value
  | _ => none

end Build

def ofTokens? (tokens : List Json.Token) : Option JsonValue := do
  (← tokens.foldlM Build.step .start).finish

def ofBytes? (bytes : List UInt8) : Option JsonValue := do ofTokens? (← Json.Token.scan bytes)

end JsonValue

end TileAtlas
