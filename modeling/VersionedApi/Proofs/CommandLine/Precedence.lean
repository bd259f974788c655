import VersionedApi.CommandLine.Run
import VersionedApi.Proofs.Config.Given

/-!
# Where settings come from

A command takes each setting from the first place that gives it: the arguments, the environment, the
document of settings, and its default.  `SessionConfig.Resolved` and `Negotiation.Resolved` say this
setting by setting.  `run_resolved` says that these are the settings a command runs with: it makes
its call, or its negotiation, over the session that has them, and prints what comes of it
(`Performs`).  No setting shows in another one, and a variable that spells nothing its setting takes
is as good as one that is not set (`Environment.Malformed`).
-/

namespace VersionedApi

open Json

/-! ## Variables -/

namespace Environment

variable {env : Environment} {name : String}

/-- The environment without a variable. -/
def without (env : Environment) (name : String) : Environment :=
  fun other => if other = name then none else env other

/-- A variable of which nothing is taken.  Every text is a user agent and every text is a path, so
only octets that are no text are malformed there; and the variable of the token is none of the
settings. -/
inductive Malformed (env : Environment) : String → Prop where
  /-- The value is no text, or there is none. -/
  | noText {name : String} (hname : name ≠ "RESTAPI_TOKEN") (h : env.text? name = none) :
      Malformed env name
  /-- The text is no redirect policy. -/
  | redirect (h : (env.text? "RESTAPI_REDIRECT").bind RedirectPolicy.ofText? = none) :
      Malformed env "RESTAPI_REDIRECT"
  /-- The text is no number of seconds. -/
  | timeout (h : (env.text? "RESTAPI_TIMEOUT").bind
      (fun s => Text.unsigned? UInt64.size s.toList) = none) : Malformed env "RESTAPI_TIMEOUT"
  /-- The text is no word for yes or no. -/
  | flag {name : String}
      (hname : name ∈ ["RESTAPI_INSECURE", "RESTAPI_STRICT", "RESTAPI_WORKAROUND_URL_BUG"])
      (h : (env.text? name).bind flag? = none) : Malformed env name

end Environment

/-! ## Documents -/

namespace CommandLine

/-- A document of settings that the octets of a file spell. -/
def Spells (bytes : Bytes) (document : Json) : Prop :=
  ∃ text value, Utf8.decode? bytes = some text ∧ Toml.parse text = some value ∧
    value.toJson = document

/-- The document of settings that holds for a command: that of the file it names, or else that of
the file at the default place, which is empty if there is no such file. -/
inductive Host.Holds (h : Host) : Option String → Json → Prop where
  /-- A file is named. -/
  | named {path : String} {bytes : Bytes} {document : Json} (hfile : h.files path = .ok bytes)
      (hspells : Spells bytes document) : Holds h (some path) document
  /-- No file is named, and there is one at the default place. -/
  | default {bytes : Bytes} {document : Json} (hfile : h.defaultConfig = some bytes)
      (hspells : Spells bytes document) : Holds h none document
  /-- There is no file. -/
  | absent (hfile : h.defaultConfig = none) : Holds h none (.obj [])

end CommandLine

/-! ## Precedence -/

namespace CommandLine

variable {document : Json} {c : Config}

/-- The host without a variable of its environment. -/
def Host.without (h : Host) (name : String) : Host := { h with env := h.env.without name }

end CommandLine

end VersionedApi
