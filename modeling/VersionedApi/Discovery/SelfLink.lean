import VersionedApi.Url.Update
import VersionedApi.Text.Lowercase

/-!
# Self links

A service that does not know its own host gives links to a placeholder.  Such a link is moved to
the URL that was asked: path, query and fragment are those of the link, everything before them is
that of the URL.  Every other link is left as it is, character by character.
-/

namespace VersionedApi

/-- Whether a link leads to one of the placeholder hosts, in any case of their letters. -/
def isPlaceholder (hosts : List String) (link : Url) : Bool :=
  link.host?.any fun host =>
    hosts.any fun p => Text.eqIgnoreAsciiCase p.toList host.render.toList

/-- A URL with path, query and fragment of a link. -/
def Url.moveTo (link queried : Url) : Url :=
  ((queried.setPath link.path.render).setQuery link.query).setFragment link.fragment

/-- The link that a service meant, seen from the URL that was asked. -/
def correctSelfLink (href : String) (queried : Url) (hosts : List String) : String :=
  match Url.parse href with
  | .error _ => href
  | .ok link => if isPlaceholder hosts link then (link.moveTo queried).render else href

end VersionedApi
