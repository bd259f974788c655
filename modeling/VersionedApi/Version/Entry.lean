import VersionedApi.Version.Link

/-!
# Version entries

One version as a discovery document lists it.  The members that an entry does not know are kept as
they are and written back.
-/

namespace VersionedApi

open Json

/-- A version as a discovery document lists it. -/
structure VersionEntry where
  /-- The version's name, such as `v2.0`. -/
  id : String
  /-- The status that the service reports. -/
  status : Option String
  /-- The links. -/
  links : List Link
  /-- All other members. -/
  extra : Members
deriving DecidableEq

namespace VersionEntry

/-- The members that an entry knows. -/
def known : List String := ["id", "links", "status"]

/-- The entry of a value. -/
def ofJson : Json → Decoded VersionEntry
  | .obj ms => do
      let id ← field? asText "id" ms
      let links ← field? (asList Link.ofJson) "links" ms
      let status ← field? (asOptional asText) "status" ms
      match id with
      | some id =>
          pure {
            id
            status := status.join
            links := links.getD []
            extra := Members.without ms known }
      | none => throw (.missingField "id")
  | v => mismatch "struct VersionEntry" v

/-- The value of an entry.  A member of the same name as a field it knows is written in its
place. -/
def toJson (e : VersionEntry) : Json :=
  ofMembers
    ([("id", .str e.id), ("status", ofText? e.status), ("links", .arr (e.links.map Link.toJson))]
      ++ e.extra)

/-- The link to the version itself: the last one with that relation. -/
def selfLink? (e : VersionEntry) : Option Link :=
  e.links.reverse.find? fun link => link.rel = some "self"

end VersionEntry

end VersionedApi
