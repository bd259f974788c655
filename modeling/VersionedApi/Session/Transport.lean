import VersionedApi.Session.Certificate
import VersionedApi.Session.Basic
import VersionedApi.Config.Load

/-!
# The network as a client

What becomes of a request on its way to a server.  A request is *dispatched* if the certificates it
is verified against can be read and it is one of HTTP, on a plain connection or on an encrypted one;
what a server sees of it has neither a fragment nor user information, which becomes a header of its
own.  The reply becomes a response whose body is in memory, or left unread if the request asks for
that.  Blanks around the value of a header get lost on the way, in both directions.

`Network.client` is the client of a network: a function of all requests so far, of which those that
were dispatched reach the network.  What the network answers is left open.  The connection is part
of the answer, and so is the handshake of an encrypted one, which may depend on how the request
wants the server to be verified: a server with which there is none is not reached.
-/

namespace VersionedApi

/-- A request as it is handed to the network. -/
structure Dispatch where
  /-- The method. -/
  method : String
  /-- The target, without fragment and user information. -/
  url : Url
  /-- The headers. -/
  headers : HeaderMap
  /-- The body. -/
  body : Option Bytes
  /-- How the server is verified, of which the server sees nothing. -/
  verify : Verification
  /-- The time limit, in milliseconds, of which it sees nothing either. -/
  timeout : Option Nat
deriving DecidableEq, Repr

/-- What comes back from a server. -/
inductive Delivery where
  /-- A reply, and the fault that cuts its body short. -/
  | reply (status : Nat) (headers : HeaderMap) (body : Bytes) (fault : Option String)
  /-- The end of the connection, or of the time for the reply. -/
  | hangUp
  /-- No connection, or no handshake on it. -/
  | unreachable
deriving DecidableEq, Repr

/-- A network. -/
structure Network where
  /-- What reads files. -/
  files : Files
  /-- What comes back for the last of some requests. -/
  answer : List Dispatch → Delivery

namespace Dispatch

/-- The text of user information, unless its octets are none. -/
def decoded? (text : String) : Option String :=
  Utf8.decode? (Url.Percent.decode (Utf8.encode text))

/-- The name of the header for credentials of a user. -/
def authorization : HeaderName := ⟨"authorization"⟩

/-- The header that stands for user information. -/
def basic (username : String) (password : Option String) : HeaderValue :=
  let pair := Utf8.encode (username ++ ":" ++ password.getD "")
  { bytes := Utf8.encode ("Basic " ++ String.ofList (Text.Base64.encode pair)), sensitive := true }

/-- The user name and the password of a URL, if it has any that are texts. -/
def user? (u : Url) : Option (String × Option String) :=
  u.authority.bind fun a =>
    (decoded? a.username).bind fun username =>
      let password := a.password.bind decoded?
      if username = "" && password.isNone then none else some (username, password)

/-- A URL without user information. -/
def anonymous (u : Url) : Url :=
  match user? u with
  | some _ =>
      { u with authority := u.authority.map fun a => { a with username := "", password := none } }
  | none => u

/-- The headers with the one that stands for user information, unless the caller gave it. -/
def credentials (r : Request) : HeaderMap :=
  match user? r.url with
  | some (username, password) =>
      if r.headers.contains authorization then r.headers
      else r.headers.insert authorization (basic username password)
  | none => r.headers

/-- What the network is handed of a request. -/
def ofRequest (r : Request) : Dispatch :=
  { method := r.method
    url := { anonymous r.url with fragment := none }
    headers := (credentials r).arrived
    body := r.body
    verify := r.verify
    timeout := r.timeout }

end Dispatch

namespace Network

/-- Refuses certificates that cannot be read or are none. -/
def trust (files : Files) (verify : Verification) : Except ApiError Unit :=
  match verify with
  | .bundle path =>
      match files path with
      | .error fault => .error (.config ("Failed to read CA bundle " ++ path ++ ": " ++ fault))
      | .ok file =>
          if Certificate.acceptable file then .ok ()
          else .error (.http "builder error: invalid certificate encoding")
  | .enabled => .ok ()
  | .disabled => .ok ()

/-- The wording of a failure at a URL. -/
def failure (what : String) (u : Url) : String := what ++ " for url (" ++ u.render ++ ")"

/-- The error of a server that cannot be reached. -/
def unreachable (u : Url) : ApiError :=
  .connection u.render (failure "error sending request" u)

/-- The characters that a server's name may hold in a URL and not in a request. -/
def unspeakable : List Char := ['"', '`', '\x7b', '\x7d']

/-- Whether the name of the host of a URL can stand in a request. -/
def isSpeakable (u : Url) : Bool :=
  u.host?.all fun host => host.render.toList.all fun c => !unspeakable.contains c

/-- A request as it is dispatched. -/
def dispatch (n : Network) (r : Request) : Except ApiError Dispatch := do
  trust n.files r.verify
  if (r.url.scheme = "http" || r.url.scheme = "https") && isSpeakable r.url then
    pure (Dispatch.ofRequest r)
  else .error (.http (failure "builder error" (Dispatch.anonymous r.url)))

/-- The requests that are on their way to a server. -/
def dispatched (n : Network) (requests : List Request) : List Dispatch :=
  requests.filterMap fun r => (n.dispatch r).toOption

/-- Whether a reply has no body whatever it holds. -/
def isBodiless (method : String) (status : Nat) : Bool :=
  method = "HEAD" || status = 204 || status = 304

/-- The body of a reply. -/
def body (r : Request) (status : Nat) (bytes : Bytes) (fault : Option String) :
    Except ApiError Body :=
  if isBodiless r.method status then
    .ok (if r.stream then .streaming [] none else .buffered [])
  else if r.stream then .ok (.streaming bytes fault)
  else if fault.isSome then .error (.http (failure "error decoding response body" r.url))
  else .ok (.buffered bytes)

/-- What comes of a request that was dispatched. -/
def receive (r : Request) (d : Delivery) : Except ApiError Response :=
  let url := Dispatch.anonymous r.url
  match d with
  | .hangUp => .error (.http (failure "error sending request" url))
  | .unreachable => .error (unreachable url)
  | .reply status headers bytes fault =>
      (body r status bytes fault).map fun body =>
        { status, headers := headers.arrived, url, body, history := [] }

/-- The client of a network. -/
def client (n : Network) : Client := fun requests =>
  match requests.getLast? with
  | none => .error (.http "no request")
  | some r =>
      match n.dispatch r with
      | .error e => .error e
      | .ok _ => receive r (n.answer (n.dispatched requests))

/-- A session over a network. -/
def session (n : Network) (c : SessionConfig)
    (authorize : Authorizer := Credentials.none.authorize) : Except ApiError Session :=
  (trust n.files c.verify).map fun _ => Session.ofConfig c authorize

end Network

end VersionedApi
