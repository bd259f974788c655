import VersionedApi.Http.Header
import VersionedApi.Http.Status
import VersionedApi.Url.Basic
import VersionedApi.Text.Blank
import VersionedApi.Text.Split
import VersionedApi.Text.Lowercase

/-!
# Responses

A reply and the redirects that led to it.  Its body is in memory or still to be read; reading it
may fail.
-/

namespace VersionedApi

/-- The body of a reply. -/
inductive Body where
  /-- A body in memory. -/
  | buffered (bytes : Bytes)
  /-- A body to be read, and the fault that cuts the reading short. -/
  | streaming (bytes : Bytes) (fault : Option String)
deriving DecidableEq, Repr

/-- The text that shows a body. -/
def Body.shown : Body → String
  | .buffered bytes => "Buffered(" ++ String.ofList (Text.decimal bytes.length) ++ " bytes)"
  | .streaming .. => "Streaming"

/-- A reader: what is to be read, and the fault that cuts the reading short. -/
structure Reader where
  /-- What is to be read. -/
  bytes : Bytes
  /-- The fault, if there is one. -/
  fault : Option String
deriving DecidableEq, Repr

/-- What reading to the end gives. -/
def Reader.toEnd (r : Reader) : Except ApiError Bytes :=
  match r.fault with
  | none => .ok r.bytes
  | some fault => .error (.io fault)

/-- A reply and the redirects that led to it. -/
structure Response where
  /-- The status. -/
  status : Nat
  /-- The headers. -/
  headers : HeaderMap
  /-- The URL that sent the reply. -/
  url : Url
  /-- The body. -/
  body : Body
  /-- The redirects, oldest first. -/
  history : List Response

namespace Response

/-- Whether the request succeeded. -/
def isSuccess (r : Response) : Bool := Status.isSuccess r.status

/-- Whether the reply is followed as a redirect. -/
def isRedirect (r : Response) : Bool := Status.isRedirect r.status

/-- The response with a header in place of those of its name. -/
def withHeader (r : Response) (name : HeaderName) (value : HeaderValue) : Response :=
  { r with headers := r.headers.insert name value }

/-- The place to which the reply redirects, if it is given and printable. -/
def location? (r : Response) : Option String := (r.headers.get? .location).bind HeaderValue.text?

/-- The value of a parameter of a type, if it is named `charset`. -/
def charset? (param : List Char) : Option (List Char) :=
  match Text.cut? '=' (Text.trim param) with
  | some (key, value) =>
      if Text.eqIgnoreAsciiCase (Text.trim key) "charset".toList then
        some (Text.trimBy (· == '"') (Text.trim value))
      else none
  | none => none

/-- The value of the first parameter of a type that is named `charset`. -/
def charsetOf? (type : List Char) : Option (List Char) :=
  ((Text.splitOn ';' type).drop 1).findSome? charset?

/-- The encoding of the body that the headers name. -/
def encoding? (r : Response) : Option String :=
  ((r.headers.get? .contentType).bind HeaderValue.text?).bind fun type =>
    (charsetOf? type.toList).map String.ofList

/-- Whether the body is in memory. -/
def isBuffered (r : Response) : Bool :=
  match r.body with
  | .buffered _ => true
  | .streaming .. => false

/-- The body, if it is in memory. -/
def buffer? (r : Response) : Option Bytes :=
  match r.body with
  | .buffered bytes => some bytes
  | .streaming .. => none

/-- The text of the body, if it is in memory. -/
def bufferText? (r : Response) : Option String := r.buffer?.map Utf8.lossy

/-- The whole body, read if it has to be. -/
def bytes (r : Response) : Except ApiError Bytes :=
  match r.body with
  | .buffered bytes => .ok bytes
  | .streaming bytes none => .ok bytes
  | .streaming _ (some fault) => .error (.io fault)

/-- The text of the whole body. -/
def text (r : Response) : Except ApiError String := r.bytes.map Utf8.lossy

/-- The JSON document of the whole body. -/
def json (r : Response) : Except ApiError Json :=
  r.bytes.bind fun bytes => (Json.parse bytes).mapError fun cause => .json (.malformed cause)

/-- A reader of the whole body. -/
def reader (r : Response) : Reader :=
  match r.body with
  | .buffered bytes => ⟨bytes, none⟩
  | .streaming bytes fault => ⟨bytes, fault⟩

end Response

end VersionedApi
