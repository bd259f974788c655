import VersionedApi.Version.Entry
import VersionedApi.Text.Split

/-!
# Versions

A version of an interface, as a client supports it or a service offers it.  Its name is a text, of
which only digits and points count for comparison: the numerals between the points are its
*components*, a fixed number of them, missing ones being zero and one that is too large being the
largest.  The *key* of a version writes each component with at least three digits, so that texts
of keys compare as components do as long as these have no more.
-/

namespace VersionedApi

open VersionedApi.Text

/-- A version of an interface. -/
structure ApiVersion where
  /-- The name of the interface. -/
  name : String
  /-- The name of the version, without the letters `v` in front. -/
  id : String
  /-- The status that the service reports. -/
  status : Option String := none
  /-- The URL of the version. -/
  url : Option String := none
  /-- The links that the service gives. -/
  links : List Link := []
  /-- The other members that the service gives. -/
  extra : Members := []
  /-- The number of components that count. -/
  length : Nat := 3
deriving DecidableEq

namespace ApiVersion

/-- A version's name without the letters `v` in front. -/
def normalize (id : String) : String := String.ofList (id.toList.dropWhile (· == 'v'))

/-- A version that a client supports. -/
def ofClient (name id : String) : ApiVersion := { name, id := normalize id }

/-- A version that a service offers. -/
def ofServer (name : String) (entry : VersionEntry) (url : Option String) : ApiVersion :=
  { name, id := normalize entry.id, status := entry.status, url, links := entry.links
    extra := entry.extra }

/-- The version with another number of components that count. -/
def withLength (v : ApiVersion) (length : Nat) : ApiVersion := { v with length }

/-- The largest component. -/
def largest : Nat := UInt64.size - 1

/-- The component that a numeral stands for; the empty numeral stands for zero. -/
def component (numeral : List Char) : Nat := min (decimalValue numeral) largest

/-- The characters of a name that count. -/
def significant (id : String) : List Char := id.toList.filter fun c => isDigit c || c == '.'

/-- A list made to have a length, by cutting it or by adding zeros. -/
def resize (xs : List Nat) (length : Nat) : List Nat :=
  (xs ++ List.replicate (length - xs.length) 0).take length

/-- The components of a version. -/
def components (v : ApiVersion) : List Nat :=
  resize ((splitOn '.' (significant v.id)).map component) v.length

/-- A component with at least three digits. -/
def padded (n : Nat) : List Char := (decimal n).leftpad 3 '0'

/-- The text by which versions are compared. -/
def key (v : ApiVersion) : String := String.ofList (v.components.flatMap padded)

/-- The first component. -/
def major (v : ApiVersion) : Nat := v.components[0]?.getD 0

/-- The second component. -/
def minor (v : ApiVersion) : Nat := v.components[1]?.getD 0

/-- Whether two versions count as the same: their keys and their statuses are equal. -/
def same (a b : ApiVersion) : Bool := a.key == b.key && a.status == b.status

/-- The text that shows a version. -/
def shown (v : ApiVersion) : String :=
  "<ApiVersion " ++ v.name ++ " " ++ v.id ++ " " ++ v.status.getD "None" ++ ">"

/-- The members of the value of a version. -/
def members (v : ApiVersion) : Members :=
  Members.ofList [
    ("name", .str v.name),
    ("id", .str v.id),
    ("status", Json.ofText? v.status),
    ("url", Json.ofText? v.url),
    ("links", .arr (v.links.map Link.toJson)),
    ("extra", .obj v.extra)]

/-- The value of a version. -/
def toJson (v : ApiVersion) : Json := .obj v.members

end ApiVersion

end VersionedApi
