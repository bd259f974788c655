import VersionedApi.Version.Basic

/-!
# Matching versions

A client version and a server version are compatible when their first components are equal and
the client's second component is not above the server's.  Of all compatible pairs the one with the
highest client version is chosen, and of those the one with the highest server version.

Versions are ranked by their keys, highest first.  Of several versions with one key the ranking
keeps the last.
-/

namespace VersionedApi

/-- A compatible pair of versions. -/
structure VersionMatch where
  /-- The version of the service. -/
  server : ApiVersion
  /-- The version of the client. -/
  client : ApiVersion
deriving DecidableEq

namespace ApiVersion

/-- Whether a client of one version can talk to a service of another. -/
def compatible (server client : ApiVersion) : Bool :=
  client.major == server.major && client.minor ≤ server.minor

/-- A ranking with a version put in, in place of one of the same key. -/
def rankOne (v : ApiVersion) : List ApiVersion → List ApiVersion
  | [] => [v]
  | w :: ws =>
      if w.key < v.key then v :: w :: ws
      else if v.key = w.key then v :: ws
      else w :: rankOne v ws

/-- The versions of a list, highest key first, one for each key. -/
def rank (vs : List ApiVersion) : List ApiVersion := vs.foldl (fun ranked v => rankOne v ranked) []

end ApiVersion

/-- The highest compatible pair of versions. -/
def matchVersions (server client : List ApiVersion) : Option VersionMatch :=
  (ApiVersion.rank client).findSome? fun c =>
    ((ApiVersion.rank server).find? fun s => s.compatible c).map fun s => ⟨s, c⟩

end VersionedApi
