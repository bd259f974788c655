import VersionedApi.Session.Request
import VersionedApi.Session.Response

/-!
# Log events

What a session and a negotiation report while they run.  An event has a level, a message and named
fields; the events of a session stand in its span, which names its user agent.
-/

namespace VersionedApi

/-- How much an event matters. -/
inductive Level where
  /-- For tracing a run. -/
  | debug
  /-- For every reader. -/
  | info
  /-- For attention. -/
  | warn
deriving DecidableEq, Repr

/-- The name of a level. -/
def Level.text : Level → String
  | .debug => "DEBUG"
  | .info => "INFO"
  | .warn => "WARN"

/-- An event. -/
inductive Event where
  /-- A request is about to be sent. -/
  | request (curl : String)
  /-- The request has a body. -/
  | requestBody (text : String)
  /-- A reply has come. -/
  | response (status : Nat) (headers : String)
  /-- The body of the reply is in memory. -/
  | responseBody (text : String)
  /-- The encoding that the reply names. -/
  | encoding (name : Option String)
  /-- A redirect is followed. -/
  | following (status : Nat) (target : String)
  /-- A redirect cannot be followed. -/
  | unresolved (status : Nat) (url reason : String)
  /-- A discovery document is about to be asked for. -/
  | querying (api url : String)
  /-- The service could not be reached. -/
  | unreachable (url message : String)
  /-- The versions of the service were read. -/
  | found (api : String) (count : Nat)
  /-- A pair of versions was chosen. -/
  | negotiated (api server client : String)
  /-- No pair of versions is compatible. -/
  | incompatible (api url : String)
deriving DecidableEq, Repr

namespace Event

/-- A number as the value of a field. -/
def numeral (n : Nat) : String := String.ofList (Text.decimal n)

/-- The level of an event. -/
def level : Event → Level
  | .unresolved .. => .warn
  | .negotiated .. | .incompatible .. => .info
  | _ => .debug

/-- The message of an event. -/
def message : Event → String
  | .request curl => "REQ: " ++ curl
  | .requestBody text => "REQ BODY: " ++ Text.Quoted.quote text
  | .response status headers => "RESP: [" ++ numeral status ++ "] " ++ headers
  | .responseBody text => "RESP BODY: " ++ text
  | .encoding name => "encoding: " ++ name.getD "None"
  | .following status target => "Following " ++ Status.text status ++ " redirect to " ++ target
  | .unresolved _ url reason => "Failed to redirect request to " ++ url ++ ": " ++ reason
  | .querying .. => "Querying API versions"
  | .unreachable url message => "Version discovery could not reach " ++ url ++ ": " ++ message
  | .found .. => "Server versions found"
  | .negotiated .. => "Negotiated API version"
  | .incompatible .. => "No compatible API version"

/-- The fields of an event. -/
def fields : Event → List (String × String)
  | .unresolved status .. => [("status", numeral status)]
  | .querying api url => [("api", api), ("url", url)]
  | .found api count => [("api", api), ("count", numeral count)]
  | .negotiated api server client => [("api", api), ("server", server), ("client", client)]
  | .incompatible api url => [("api", api), ("url", url)]
  | _ => []

/-- The events of a request that is about to be sent. -/
def ofRequest (r : Request) : List Event :=
  .request r.curl :: (r.body.map fun bytes => requestBody (Utf8.lossy bytes)).toList

/-- The events of a reply that has come. -/
def ofResponse (r : Response) : List Event :=
  .response r.status r.headers.shown ::
    match r.bufferText? with
    | some text => [.responseBody text, .encoding r.encoding?]
    | none => []

end Event

/-- The span in which the events of a session stand. -/
structure Span where
  /-- The user agent of the session. -/
  userAgent : Option String
deriving DecidableEq, Repr

namespace Span

/-- The name of the span. -/
def name : String := "restapi_session"

/-- The user agent that the span shows. -/
def shown (s : Span) : String := s.userAgent.getD "-"

end Span

/-- An event with the span in which it stands. -/
structure Logged where
  /-- The span, if the event stands in one. -/
  span : Option Span
  /-- The event. -/
  event : Event
deriving DecidableEq, Repr

end VersionedApi
