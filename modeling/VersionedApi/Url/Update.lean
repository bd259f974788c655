import VersionedApi.Url.Parser

/-!
# Changing parts of a URL

A part is given as a text and read by the rules of that part alone: nothing in it can end the part
early.
-/

namespace VersionedApi.Url

/-- The characters of a text without tabs and line breaks. -/
def unbroken (text : String) : List Char :=
  text.toList.filter fun c => !(c == '\t' || c == '\n' || c == '\r')

/-- The URL with another path.  In a URL without a hierarchy a slash in front is encoded. -/
def setPath (u : Url) (text : String) : Url :=
  if u.isFlat then
    let plain := match unbroken text with
      | '/' :: rest => "%2F".toList ++ Percent.encode Percent.controls rest
      | cs => Percent.encode Percent.controls cs
    { u with path := .plain (String.ofList plain) }
  else { u with path := .rooted (Path.parse u.kind (unbroken text)) }

/-- The URL with another query, or without one. -/
def setQuery (u : Url) (text : Option String) : Url :=
  { u with query := text.map fun q => encodeQuery u.kind (unbroken q) }

/-- The URL with another fragment, or without one. -/
def setFragment (u : Url) (text : Option String) : Url :=
  { u with fragment := text.map fun f => encodeFragment (unbroken f) }

end VersionedApi.Url
