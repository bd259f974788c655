import VersionedApi.Url.Percent

/-!
# Schemes

A scheme decides how the rest of a URL is read.  The special schemes always have a host and a
path, take a backslash for a slash and have a default port; files have rules of their own; every
other scheme is generic.
-/

namespace VersionedApi.Url

/-- How a URL of a scheme is read. -/
inductive SchemeKind where
  /-- A scheme with a host, a path and a default port. -/
  | special
  /-- The scheme of files. -/
  | file
  /-- Any other scheme. -/
  | generic
deriving DecidableEq, Repr

/-- The default port of a special scheme. -/
def defaultPort? (scheme : String) : Option UInt16 :=
  if scheme = "http" || scheme = "ws" then some 80
  else if scheme = "https" || scheme = "wss" then some 443
  else if scheme = "ftp" then some 21
  else none

/-- The kind of a scheme. -/
def schemeKind (scheme : String) : SchemeKind :=
  if scheme = "file" then .file
  else if (defaultPort? scheme).isSome then .special
  else .generic

namespace SchemeKind

/-- Whether a character separates the segments of a path. -/
def isSlash : SchemeKind → Char → Bool
  | .generic, c => c == '/'
  | _, c => c == '/' || c == '\\'

/-- What a query encodes. -/
def querySet : SchemeKind → Percent.EncodeSet
  | .generic => Percent.querySet
  | _ => Percent.specialQuerySet

end SchemeKind

/-- Whether a character may stand in a scheme after its first letter. -/
def isSchemeChar (c : Char) : Bool :=
  ('a' ≤ c && c ≤ 'z') || ('A' ≤ c && c ≤ 'Z') || ('0' ≤ c && c ≤ '9')
    || c == '+' || c == '-' || c == '.'

/-- The scheme at the beginning of a text, in small letters, and what follows its colon. -/
def splitScheme? (cs : List Char) : Option (String × List Char) :=
  match cs with
  | c :: _ =>
      if ('a' ≤ c && c ≤ 'z') || ('A' ≤ c && c ≤ 'Z') then
        match cs.dropWhile isSchemeChar with
        | ':' :: rest => some (String.ofList ((cs.takeWhile isSchemeChar).map Char.toLower), rest)
        | _ => none
      else none
  | [] => none

end VersionedApi.Url
