import VersionedApi.Http.Header

/-!
# Authorization

An authorizer gives the headers of a request their credentials, or refuses.  Credentials are none
or a token that was issued beforehand; the token is sent as a sensitive value in place of any that
the caller gave.
-/

namespace VersionedApi

/-- What gives the headers of a request their credentials. -/
abbrev Authorizer := HeaderMap → Except ApiError HeaderMap

/-- The credentials of a session. -/
inductive Credentials where
  /-- None. -/
  | none
  /-- A token. -/
  | token (text : String)
deriving DecidableEq

namespace Credentials

/-- The headers with the credentials. -/
def authorize : Credentials → Authorizer
  | .none => fun headers => .ok headers
  | .token text => fun headers =>
      match HeaderValue.ofText? text with
      | .ok value => .ok (headers.insert .authToken { value with sensitive := true })
      | .error fault => .error (.auth ("Token is not a valid header value: " ++ fault.message))

/-- The text that shows credentials; a token is hidden. -/
def shown : Credentials → String
  | .none => "NoAuth"
  | .token _ => "TokenAuth \x7b token: \"***\" \x7d"

end Credentials

end VersionedApi
