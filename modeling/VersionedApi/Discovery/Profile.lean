import VersionedApi.Url.Update
import VersionedApi.Text.Split
import VersionedApi.Text.Blank
import VersionedApi.Json.Basic
import VersionedApi.Text.Quoted

/-!
# Service profiles

What is particular to the services of one interface: which URL of theirs lists the versions, and
in what shape.  Both are functions that the profile of an interface brings with it, a correction of
URLs and an unwrapping of lists, so a profile may do with them whatever it needs.

The identity service has a URL of an old version that does not list the versions, so a segment at
the end of the path is taken off (`UrlCorrection.stripSegment`); and it may wrap the list
(`ListShape.wrapped`).  Other services have nothing of the kind (`UrlCorrection.keep`,
`ListShape.flat`).
-/

namespace VersionedApi

/-- How a URL is corrected before it is asked for versions. -/
structure UrlCorrection where
  /-- The corrected URL, of a strict correction or of another one. -/
  apply : Bool → Url → Url

namespace UrlCorrection

/-- Every URL is left as it is. -/
def keep : UrlCorrection where
  apply _ url := url

/-- The text of a path without a segment at its end, if the path ends in it. -/
def stripped? (suffix path : String) : Option String :=
  match Text.cutLast? '/' (Text.dropEndWhile (· == '/') path.toList) with
  | some (parent, last) => if String.ofList last = suffix then some (String.ofList parent) else none
  | none => none

/-- A segment is taken off the end of the path, unless the correction is strict. -/
def stripSegment (suffix : String) : UrlCorrection where
  apply strict url :=
    if strict then url
    else
      match stripped? suffix url.path.render with
      | some parent => url.setPath parent
      | none => url

end UrlCorrection

/-- In what shape a service lists its versions. -/
structure ListShape where
  /-- The list in a value of the shape. -/
  unwrap : Json → Json

namespace ListShape

/-- As a list. -/
def flat : ListShape where
  unwrap v := v

/-- As a list, or as an object that holds it under `values`. -/
def wrapped : ListShape where
  unwrap
    | .obj ms => (Members.get? ms "values").getD (.obj ms)
    | v => v

end ListShape

/-- What is particular to the services of one interface. -/
structure ServiceProfile where
  /-- The name of the interface. -/
  apiName : String
  /-- How their URLs are corrected. -/
  correction : UrlCorrection := .keep
  /-- In what shape they list their versions. -/
  shape : ListShape := .flat

namespace ServiceProfile

/-- The profile of a service without particulars. -/
def generic (apiName : String) : ServiceProfile := { apiName }

/-- The profile where none is given. -/
def standard : ServiceProfile := generic "base"

/-- The profile of the identity service. -/
def identity : ServiceProfile :=
  { apiName := "identity", correction := .stripSegment "v2.0", shape := .wrapped }

/-- The text that shows a profile. -/
def shown (p : ServiceProfile) : String :=
  "ServiceProfile \x7b api_name: " ++ Text.Quoted.quote p.apiName ++ ", .. \x7d"

end ServiceProfile

end VersionedApi
