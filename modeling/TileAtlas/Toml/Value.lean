/-!
Contract: the values and tables of a TOML document.

Owns:
- `TomlValue`, with tables that know how they came about;
- `Members`, named values, and the rules by which a table may be extended.

A table may be opened by one header.  A table that a header or a dotted key
merely passed through is implied: a header may still open it in the first case,
and more dotted keys may extend it in the second.  An inline table is closed.
-/

namespace TileAtlas

/-- How a table came about. -/
inductive TableKind where
  /-- Opened by a header, or the document itself. -/
  | opened
  /-- Passed through by a header. -/
  | implied
  /-- Passed through by a dotted key. -/
  | dotted
  /-- Written out as a value. -/
  | inline
deriving DecidableEq, Repr

/-- A value of a document. -/
inductive TomlValue where
  | text (content : String)
  | integer (value : Int)
  | float (value : Float)
  | bool (value : Bool)
  /-- A date, a time or both. -/
  | dateTime
  | array (items : List TomlValue)
  | table (kind : TableKind) (members : List (String × TomlValue))
  /-- Tables under headers in double brackets. -/
  | tables (items : List (List (String × TomlValue)))

namespace TomlValue

abbrev Members := List (String × TomlValue)

/-- Put a value under a name that exists, or at the end. -/
def setMember (name : String) (value : TomlValue) : Members → Members
  | [] => [(name, value)]
  | member :: rest =>
      if member.1 = name then (name, value) :: rest else member :: setMember name value rest

def splitLast? {β : Type} (items : List β) : Option (List β × β) :=
  match items.getLast? with
  | some last => some (items.dropLast, last)
  | none => none

/-- Follow a path of names and change the table at its end.  Missing tables are
made on the way, and of several tables the last one is followed.  Dotted keys
may not pass through a table that a header opened. -/
def changeAt (isDotted : Bool) (kind : TableKind) (members : Members) :
    List String → (TableKind → Members → Option Members) → Option Members
  | [], change => change kind members
  | name :: path, change =>
      match members.lookup name with
      | none =>
          let made := if isDotted then TableKind.dotted else TableKind.implied
          (changeAt isDotted made [] path change).map fun inner =>
            setMember name (.table made inner) members
      | some (.table innerKind inner) =>
          if innerKind = .inline ∨ isDotted ∧ innerKind = .opened then none
          else
            (changeAt isDotted innerKind inner path change).map fun changed =>
              setMember name (.table innerKind changed) members
      | some (.tables items) =>
          match splitLast? items with
          | none => none
          | some (before, last) =>
              (changeAt isDotted .opened last path change).map fun changed =>
                setMember name (.tables (before ++ [changed])) members
      | some _ => none

/-- Add a value under a dotted key.  A key of one name belongs to the table
itself, and a longer one to a table of dotted keys. -/
def addValue (kind : TableKind) (members : Members) (path : List String) (value : TomlValue) :
    Option Members :=
  match splitLast? path with
  | none => none
  | some (before, name) =>
      changeAt true kind members before fun innerKind inner =>
        if innerKind = .dotted ↔ before = [] then none
        else if (inner.lookup name).isSome then none
        else some (inner ++ [(name, value)])

def openTable (root : Members) (path : List String) : Option Members :=
  match splitLast? path with
  | none => none
  | some (before, name) =>
      changeAt false .opened root before fun _ inner =>
        match inner.lookup name with
        | none => some (inner ++ [(name, .table .opened [])])
        | some (.table .implied members) => some (setMember name (.table .opened members) inner)
        | some _ => none

/-- Add a table under a header in double brackets. -/
def appendTable (root : Members) (path : List String) : Option Members :=
  match splitLast? path with
  | none => none
  | some (before, name) =>
      changeAt false .opened root before fun _ inner =>
        match inner.lookup name with
        | none => some (inner ++ [(name, .tables [[]])])
        | some (.tables items) => some (setMember name (.tables (items ++ [[]])) inner)
        | some _ => none

end TomlValue

end TileAtlas
