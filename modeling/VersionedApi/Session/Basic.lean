import VersionedApi.Session.Auth
import VersionedApi.Session.Exchange
import VersionedApi.Config.Basic
import VersionedApi.Url.Form

/-!
# Sessions

A session holds what all requests to a service have in common.  A request is prepared in three
steps, each of which may refuse it: the user agent is put in, the authorizer gives the credentials,
and the URL is read.  A prepared request is sent by `Flight.run`; the log of a request that was
refused is empty.
-/

namespace VersionedApi

/-- What all requests to a service have in common. -/
structure Session where
  /-- What gives a request its credentials. -/
  authorize : Authorizer
  /-- The user agent of requests that name none. -/
  userAgent : Option String
  /-- The redirect policy of requests that name none. -/
  redirect : RedirectPolicy
  /-- The verification of requests that name none. -/
  verify : Verification

namespace Session

/-- The session of the given settings. -/
def ofConfig (c : SessionConfig) (authorize : Authorizer := Credentials.none.authorize) : Session :=
  { authorize, userAgent := c.userAgent, redirect := c.redirect, verify := c.verify }

/-- The span of the events of a session. -/
def span (s : Session) : Span := ⟨s.userAgent⟩

/-- The text that shows a session. -/
def shown (s : Session) : String :=
  "Session \x7b user_agent: " ++ Text.Quoted.quote? s.userAgent ++
    ", redirect: " ++ s.redirect.shown ++ ", verify: " ++ s.verify.shown ++ ", .. \x7d"

/-- The type of a JSON body. -/
def jsonType : HeaderValue := { bytes := Utf8.encode "application/json" }

/-- The headers of the caller, with the type of a JSON body if there is one. -/
def typed (o : RequestOptions) : HeaderMap :=
  match o.json with
  | some _ => o.headers.insert .contentType jsonType
  | none => o.headers

/-- The body of a request. -/
def body (o : RequestOptions) : Option Bytes :=
  match o.json with
  | some value => some (Utf8.encode value.render)
  | none => o.data

/-- The user agent that has to be put in: that of the call, or that of the session if the caller
gave no header. -/
def agent? (s : Session) (o : RequestOptions) : Option String :=
  match o.userAgent with
  | some agent => some agent
  | none => if (typed o).contains .userAgent then none else s.userAgent

/-- The headers with the user agent. -/
def named (s : Session) (o : RequestOptions) : Except ApiError HeaderMap :=
  match s.agent? o with
  | none => .ok (typed o)
  | some agent =>
      match HeaderValue.ofText? agent with
      | .ok value => .ok ((typed o).insert .userAgent value)
      | .error fault => .error (.ofHeader fault)

/-- A request ready to be sent, with the redirect policy that holds for it. -/
def prepare (s : Session) (method url : String) (o : RequestOptions) : Except ApiError Flight := do
  let headers ← s.named o
  let headers ← s.authorize headers
  let target ← (Url.parse url).mapError .invalidUrl
  let request : Request :=
    { method, headers
      url := target.addPairs o.params
      body := body o
      verify := o.verify.getD s.verify
      timeout := o.timeout
      stream := o.stream }
  pure { request, budget := o.redirect.getD s.redirect, history := [] }

/-- The run of a request of at most `steps` requests sent. -/
def request (s : Session) (client : Client) (steps : Nat) (method url : String)
    (o : RequestOptions) : Trace Response :=
  match s.prepare method url o with
  | .error e => .done (.error e)
  | .ok flight => flight.run client s.span steps []

end Session

end VersionedApi
