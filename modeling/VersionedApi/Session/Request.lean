import VersionedApi.Http.Header
import VersionedApi.Session.RedirectPolicy
import VersionedApi.Session.Verification
import VersionedApi.Url.Basic

/-!
# Requests

The options of one call, and the request that is made of them.
-/

namespace VersionedApi

/-- The options of one call.  Every one starts empty. -/
structure RequestOptions where
  /-- A value to send as JSON, in place of `data`. -/
  json : Option Json := none
  /-- Octets to send. -/
  data : Option Bytes := none
  /-- Headers of the caller. -/
  headers : HeaderMap := .empty
  /-- Pairs for the query. -/
  params : List (String × String) := []
  /-- The user agent of this call. -/
  userAgent : Option String := none
  /-- The redirect policy of this call. -/
  redirect : Option RedirectPolicy := none
  /-- The verification of this call. -/
  verify : Option Verification := none
  /-- The time limit of this call, in milliseconds. -/
  timeout : Option Nat := none
  /-- Whether the body of the reply is left unread. -/
  stream : Bool := false

/-- The options with a header in place of those of its name. -/
def RequestOptions.header (o : RequestOptions) (name value : String) :
    Except ApiError RequestOptions := do
  let n ← (HeaderName.ofText? name).mapError ApiError.ofHeader
  let v ← (HeaderValue.ofText? value).mapError ApiError.ofHeader
  pure { o with headers := o.headers.insert n v }

/-- A request that is ready to be sent. -/
structure Request where
  /-- The method. -/
  method : String
  /-- The target. -/
  url : Url
  /-- The headers. -/
  headers : HeaderMap
  /-- The body. -/
  body : Option Bytes
  /-- The verification of the server. -/
  verify : Verification
  /-- The time limit, in milliseconds. -/
  timeout : Option Nat
  /-- Whether the body of the reply is left unread. -/
  stream : Bool
deriving DecidableEq, Repr

namespace Request

/-- A header as an argument of a command line; a sensitive value is hidden. -/
def headerArgument (name : HeaderName) (value : HeaderValue) : String :=
  let shown := if value.sensitive then "***" else Utf8.lossy value.bytes
  "-H '" ++ name.text ++ ": " ++ shown ++ "'"

/-- The request as a command line of curl. -/
def curl (r : Request) : String :=
  let insecure := if r.verify.isInsecure then ["--insecure"] else []
  let headers := r.headers.toList.map fun (name, value) => headerArgument name value
  " ".intercalate
    (["curl -i", "-X '" ++ r.method ++ "'", "'" ++ r.url.render ++ "'"] ++ insecure ++ headers)

end Request

end VersionedApi
