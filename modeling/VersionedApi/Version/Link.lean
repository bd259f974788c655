import VersionedApi.Json.Shape

/-!
# Links

A link of a version entry: where it leads, how it relates to the version and what type the target
has.  A list gives the three fields in that order.
-/

namespace VersionedApi

open Json

/-- A link of a version entry. -/
structure Link where
  /-- The target. -/
  href : String
  /-- The relation, `self` for the version's own URL. -/
  rel : Option String := none
  /-- The media type of the target. -/
  mediaType : Option String := none
deriving DecidableEq, Repr

namespace Link

/-- The link of a value. -/
def ofJson : Json → Decoded Link
  | .obj ms => do
      let href ← field? asText "href" ms
      let rel ← field? (asOptional asText) "rel" ms
      let mediaType ← field? (asOptional asText) "type" ms
      match href with
      | some href => pure { href, rel := rel.join, mediaType := mediaType.join }
      | none => throw (.missingField "href")
  | .arr items => do
      let href ← item? asText 0 items
      match href with
      | none => throw (.invalidLength 0 "struct Link with 3 elements")
      | some href =>
          let rel ← item? (asOptional asText) 1 items
          let mediaType ← item? (asOptional asText) 2 items
          atMost 3 items
          pure { href, rel := rel.join, mediaType := mediaType.join }
  | v => mismatch "struct Link" v

/-- A member of an optional text, or none. -/
def member? (name : String) : Option String → Members
  | none => []
  | some s => [(name, .str s)]

/-- The value of a link, without the fields it does not have. -/
def toJson (l : Link) : Json :=
  ofMembers ([("href", .str l.href)] ++ member? "rel" l.rel ++ member? "type" l.mediaType)

end Link

end VersionedApi
