import VersionedApi.Json.Parser
import VersionedApi.Json.Shape
import VersionedApi.Url.Fault

/-!
# Errors

The errors of the library, by cause.  A connection error says that a host could not be reached at
all; discovery takes it for a service without versions.  Every other error says that a request, a
reply or a setting is wrong, and is passed on.
-/

namespace VersionedApi

/-- Why a JSON document was not accepted. -/
inductive JsonFault where
  /-- It cannot be read. -/
  | malformed (cause : Json.Malformed)
  /-- Its value has the wrong shape. -/
  | shape (fault : Json.ShapeFault)
deriving DecidableEq

/-- The wording of a fault. -/
def JsonFault.message : JsonFault → String
  | .malformed .wrong => "malformed document"
  | .malformed .early => "unfinished document"
  | .shape fault => fault.message

/-- Why a header was not accepted. -/
inductive HeaderFault where
  /-- The name is no token. -/
  | name
  /-- The value holds a character that no value may hold. -/
  | value
deriving DecidableEq, Repr

/-- The wording of a fault. -/
def HeaderFault.message : HeaderFault → String
  | .name => "invalid HTTP header name"
  | .value => "failed to parse header value"

/-- An error. -/
inductive ApiError where
  /-- A host could not be reached. -/
  | connection (url message : String)
  /-- An exchange failed otherwise. -/
  | http (message : String)
  /-- A JSON document was not accepted. -/
  | json (fault : JsonFault)
  /-- A discovery document has an unexpected structure. -/
  | discovery (message : String)
  /-- A text is no URL. -/
  | invalidUrl (fault : UrlFault)
  /-- A header was not accepted. -/
  | invalidHeader (message : String)
  /-- A request could not be given its credentials. -/
  | auth (message : String)
  /-- A setting was not accepted. -/
  | config (message : String)
  /-- Octets could not be read. -/
  | io (message : String)
deriving DecidableEq

namespace ApiError

/-- The wording of an error. -/
def message : ApiError → String
  | .connection url message => "Connection error for " ++ url ++ ": " ++ message
  | .http message => "HTTP error: " ++ message
  | .json fault => "JSON error: " ++ fault.message
  | .discovery message => "Discovery error: " ++ message
  | .invalidUrl fault => "Invalid URL: " ++ fault.message
  | .invalidHeader message => "Invalid header: " ++ message
  | .auth message => "Auth error: " ++ message
  | .config message => "Config error: " ++ message
  | .io message => "IO error: " ++ message

/-- Whether an error says that a host could not be reached. -/
def isConnection : ApiError → Bool
  | .connection .. => true
  | _ => false

/-- The error of a header that was not accepted. -/
def ofHeader (fault : HeaderFault) : ApiError := .invalidHeader fault.message

/-- The error of a value of the wrong shape. -/
def ofShape (fault : Json.ShapeFault) : ApiError := .json (.shape fault)

end ApiError

/-- The error of a file that does not exist, in the words of the system. -/
def missingFile : String := "No such file or directory (os error 2)"

end VersionedApi
