import VersionedApi.Json.Printer
import VersionedApi.Text.Quoted

/-!
# Shapes of values

A value is decoded by saying which shape it must have.  The first fault decides.  A *record* is an
object of named fields, or a list of the fields in their order of declaration; the fields of an
object are decoded in ascending order of their names, and a missing one is a fault only after
those present have been accepted.
-/

namespace VersionedApi.Json

/-- What stands where another shape was expected. -/
inductive Found where
  /-- The null value. -/
  | null
  /-- A truth value. -/
  | bool (value : Bool)
  /-- An integer. -/
  | int (value : Int)
  /-- A floating point number. -/
  | double (value : Double)
  /-- A text. -/
  | str (value : String)
  /-- A list. -/
  | sequence
  /-- An object. -/
  | map
deriving DecidableEq

/-- What a value is taken for when it has the wrong shape. -/
def found : Json → Found
  | .null => .null
  | .bool b => .bool b
  | .int n => .int n
  | .double d => .double d
  | .str s => .str s
  | .arr _ => .sequence
  | .obj _ => .map

/-- The wording of what was found. -/
def Found.text : Found → String
  | .null => "null"
  | .bool b => "boolean `" ++ scalar (.bool b) ++ "`"
  | .int n => "integer `" ++ scalar (.int n) ++ "`"
  | .double d => "floating point `" ++ doubleText d ++ "`"
  | .str s => "string " ++ Text.Quoted.quote s
  | .sequence => "sequence"
  | .map => "map"

/-- Why a value does not have the shape that is expected of it. -/
inductive ShapeFault where
  /-- It is of another type. -/
  | invalidType (found : Found) (expected : String)
  /-- It is of the right type and out of range. -/
  | invalidValue (found : Found) (expected : String)
  /-- A field that has no default is missing. -/
  | missingField (name : String)
  /-- A list has too few or too many items. -/
  | invalidLength (count : Nat) (expected : String)
  /-- None of several shapes fits. -/
  | noVariant (name : String)
deriving DecidableEq

/-- The wording of a fault. -/
def ShapeFault.message : ShapeFault → String
  | .invalidType found expected => "invalid type: " ++ found.text ++ ", expected " ++ expected
  | .invalidValue found expected => "invalid value: " ++ found.text ++ ", expected " ++ expected
  | .missingField name => "missing field `" ++ name ++ "`"
  | .invalidLength count expected =>
      "invalid length " ++ String.ofList (Text.decimal count) ++ ", expected " ++ expected
  | .noVariant name => "data did not match any variant of untagged enum " ++ name

/-- A decoding of a value. -/
abbrev Decoded (α : Type) := Except ShapeFault α

/-- The fault of a value of another type. -/
def mismatch {α : Type} (expected : String) (v : Json) : Decoded α :=
  .error (.invalidType v.found expected)

/-- A text. -/
def asText : Json → Decoded String
  | .str s => .ok s
  | v => mismatch "a string" v

/-- A truth value. -/
def asBool : Json → Decoded Bool
  | .bool b => .ok b
  | v => mismatch "a boolean" v

/-- An integer of 64 bits that is not negative. -/
def asUInt64 : Json → Decoded UInt64
  | .int n =>
      if 0 ≤ n && n < UInt64.size then .ok (UInt64.ofNat n.toNat)
      else .error (.invalidValue (.int n) "u64")
  | v => mismatch "u64" v

/-- Null, or what another decoder accepts. -/
def asOptional {α : Type} (decode : Json → Decoded α) : Json → Decoded (Option α)
  | .null => .ok none
  | v => (decode v).map some

/-- A list of what another decoder accepts, decided by its first item that is refused. -/
def asList {α : Type} (decode : Json → Decoded α) : Json → Decoded (List α)
  | .arr items => items.mapM decode
  | v => mismatch "a sequence" v

/-- The field of a name, if it is there. -/
def field? {α : Type} (decode : Json → Decoded α) (name : String) (ms : Members) :
    Decoded (Option α) :=
  match ms.get? name with
  | none => .ok none
  | some v => (decode v).map some

/-- The item at a position, if it is there. -/
def item? {α : Type} (decode : Json → Decoded α) (index : Nat) (items : List Json) :
    Decoded (Option α) :=
  match items[index]? with
  | none => .ok none
  | some v => (decode v).map some

/-- Refuses a list of more items than a record has fields. -/
def atMost (count : Nat) (items : List Json) : Decoded Unit :=
  if items.length ≤ count then .ok ()
  else .error (.invalidLength items.length "fewer elements in array")

end VersionedApi.Json
