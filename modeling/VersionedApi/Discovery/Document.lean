import VersionedApi.Discovery.Profile
import VersionedApi.Version.Entry
import VersionedApi.Error

/-!
# Discovery documents

A discovery document gives one version under `version` or a list of them under `versions`.  A
document with neither offers nothing.
-/

namespace VersionedApi

/-- The wording of the kind of a value. -/
def Json.kindText : Json → String
  | .null => "null"
  | .bool _ => "a boolean"
  | .int _ => "a number"
  | .double _ => "a number"
  | .str _ => "a string"
  | .arr _ => "a list"
  | .obj _ => "an object"

/-- The value that should be the list of versions, if the document has one. -/
def versionList? (shape : ListShape) : Json → Option Json
  | .obj ms =>
      match Members.get? ms "version" with
      | some single => some (.arr [single])
      | none => (Members.get? ms "versions").map shape.unwrap
  | _ => none

/-- The entries of a document. -/
def extractVersions (document : Json) (shape : ListShape) :
    Except ApiError (List VersionEntry) :=
  match versionList? shape document with
  | none => .ok []
  | some (.arr items) => (items.mapM VersionEntry.ofJson).mapError ApiError.ofShape
  | some v => .error (.discovery ("expected a list of versions, got " ++ v.kindText))

end VersionedApi
