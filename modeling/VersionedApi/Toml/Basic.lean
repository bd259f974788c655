import VersionedApi.Json.Basic

/-!
# TOML values

A TOML document as a value.  Unlike JSON the format has no null, tells dates from texts, and has
floating point numbers that are not finite.  `Value.toJson` gives the JSON value of the same
meaning; a date becomes an object with one member, so that it is taken for no text.
-/

namespace VersionedApi.Toml

/-- A TOML value. -/
inductive Value where
  /-- A text. -/
  | text (value : String)
  /-- An integer. -/
  | integer (value : Int)
  /-- A floating point number. -/
  | float (value : Double)
  /-- A truth value. -/
  | bool (value : Bool)
  /-- A date, a time of day or both, as it is written. -/
  | datetime (written : String)
  /-- A list. -/
  | array (items : List Value)
  /-- A table, its entries in the order in which they came. -/
  | table (entries : List (String × Value))
deriving Inhabited

namespace Value

/-- The name under which a date is found in its object. -/
def datetimeName : String := "$__toml_private_datetime"

mutual

/-- The JSON value of the same meaning. -/
def toJson : Value → Json
  | .text s => .str s
  | .integer n => .int n
  | .float d => .double d
  | .bool b => .bool b
  | .datetime written => .obj [(datetimeName, .str written)]
  | .array items => .arr (toJsonItems items)
  | .table entries => Json.ofMembers (toJsonEntries entries)

/-- The JSON values of the items of a list. -/
def toJsonItems : List Value → List Json
  | [] => []
  | v :: vs => toJson v :: toJsonItems vs

/-- The JSON members of the entries of a table. -/
def toJsonEntries : List (String × Value) → List (String × Json)
  | [] => []
  | (name, v) :: rest => (name, toJson v) :: toJsonEntries rest

end

end Value

end VersionedApi.Toml
