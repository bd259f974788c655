import VersionedApi.Url.Host
import VersionedApi.Url.Path

/-!
# URLs

A URL as its parts.  User information, path, query and fragment are kept percent-encoded, the
host in its one normal form, and the port only if it is not the default of the scheme, so that
equal URLs have equal texts.
-/

namespace VersionedApi

namespace Url

/-- What stands between the two slashes and the path. -/
structure Authority where
  /-- The user name. -/
  username : String := ""
  /-- The password, if one is given. -/
  password : Option String := none
  /-- The host, unless it is empty. -/
  host : Option Host := none
  /-- The port, unless it is the default of the scheme. -/
  port : Option UInt16 := none
deriving DecidableEq, Repr

/-- The user name and the password with the sign that ends them, or nothing. -/
def Authority.userinfo (a : Authority) : String :=
  match a.password with
  | some password => a.username ++ ":" ++ password ++ "@"
  | none => if a.username = "" then "" else a.username ++ "@"

/-- The text of an authority. -/
def Authority.render (a : Authority) : String :=
  a.userinfo ++ (a.host.map Host.render).getD "" ++
    match a.port with
    | some port => ":" ++ String.ofList (Text.decimal port.toNat)
    | none => ""

end Url

/-- A URL. -/
structure Url where
  /-- The scheme, in small letters. -/
  scheme : String
  /-- User information, host and port, if there are two slashes. -/
  authority : Option Url.Authority
  /-- The path. -/
  path : Url.Path
  /-- The query, without its question mark. -/
  query : Option String
  /-- The fragment, without its number sign. -/
  fragment : Option String
deriving DecidableEq, Repr

namespace Url

/-- The kind of the scheme. -/
def kind (u : Url) : SchemeKind := schemeKind u.scheme

/-- The host, unless there is none or it is empty. -/
def host? (u : Url) : Option Host := u.authority.bind Authority.host

/-- Whether the URL has no hierarchy in which a relative reference could be resolved. -/
def isFlat (u : Url) : Bool :=
  match u.path with
  | .plain _ => true
  | .rooted segments => u.authority.isNone && segments.isEmpty

/-- The segments of the path, none if it has no structure. -/
def segments (u : Url) : List String :=
  match u.path with
  | .rooted segments => segments
  | .plain _ => []

/-- The port that a connection uses. -/
def effectivePort? (u : Url) : Option UInt16 :=
  match u.authority.bind Authority.port with
  | some port => some port
  | none => defaultPort? u.scheme

/-- What stands before the path.  A path that begins with two slashes and has no authority in
front of it is kept apart from the scheme by a dot. -/
def front (u : Url) : String :=
  match u.authority with
  | some a => "//" ++ a.render
  | none =>
      match u.segments with
      | "" :: _ :: _ => "/."
      | _ => ""

/-- The text of a URL. -/
def render (u : Url) : String :=
  u.scheme ++ ":" ++ u.front ++ u.path.render ++
    (match u.query with
      | some q => "?" ++ q
      | none => "") ++
    (match u.fragment with
      | some f => "#" ++ f
      | none => "")

end Url

end VersionedApi
