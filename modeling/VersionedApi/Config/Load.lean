import VersionedApi.Config.Environment
import VersionedApi.Toml.Document
import VersionedApi.Error

/-!
# Loading settings

Settings come from a file, if there is one, and from the environment, which comes first.  A file
that is named has to be there; the file at the default place is read if it is there.
-/

namespace VersionedApi

/-- What reads files: the octets of the file at a path, or the fault of the system. -/
abbrev Files := String → Except String Bytes

namespace Config

/-- The fault of a file that is no text. -/
def notText : String := "stream did not contain valid UTF-8"

/-- The error of a file that cannot be read. -/
def unreadable (fault : String) : ApiError := .config ("Failed to read config file: " ++ fault)

/-- The error of a file that does not hold settings. -/
def unparsable : ApiError := .config "Failed to parse config"

/-- The settings that a text spells. -/
def ofText (s : String) : Except ApiError Config :=
  match Toml.parse s with
  | none => .error unparsable
  | some v => (decode .ignored v.toJson).mapError fun _ => unparsable

/-- The settings in the octets of a file. -/
def ofBytes (bytes : Bytes) : Except ApiError Config :=
  match Utf8.decode? bytes with
  | none => .error (unreadable notText)
  | some s => ofText s

/-- The settings of a file. -/
def ofFile (files : Files) (path : String) : Except ApiError Config :=
  match files path with
  | .error fault => .error (unreadable fault)
  | .ok bytes => ofBytes bytes

/-- The settings of a file that need not be there. -/
def ofDefault (file : Option Bytes) : Except ApiError Config :=
  match file with
  | none => .ok {}
  | some bytes => ofBytes bytes

/-- The settings of the environment over those of a file: the one that is named, or else the one
at the default place. -/
def load (files : Files) (default : Option Bytes) (env : Environment) (path : Option String) :
    Except ApiError Config :=
  let base := match path with
    | some path => ofFile files path
    | none => ofDefault default
  base.map (withEnvironment · env)

/-- The settings of the environment alone. -/
def ofEnvironment (env : Environment) : Config := withEnvironment {} env

end Config

end VersionedApi
