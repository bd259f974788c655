import VersionedApi.Config.Basic
import VersionedApi.Text.Utf8

/-!
# Settings from the environment

Environment variables that take the place of settings.  A variable whose value is no text, or does
not spell what its setting needs, is ignored.  Two variables are about verification: one names a
file of certificates, the other turns verification off and wins.
-/

namespace VersionedApi

/-- The variables of an environment, by their names. -/
abbrev Environment := String → Option Bytes

namespace Environment

/-- The text of a variable. -/
def text? (env : Environment) (name : String) : Option String := (env name).bind Utf8.decode?

/-- The words for yes. -/
def yesWords : List String := ["1", "true", "yes", "on"]

/-- The words for no. -/
def noWords : List String := ["0", "false", "no", "off"]

/-- The truth value that a word spells, in any case and with blanks around it. -/
def flag? (s : String) : Option Bool :=
  let word := String.ofList (Text.lower (Text.trim s.toList))
  if yesWords.contains word then some true
  else if noWords.contains word then some false
  else none

/-- The truth value of a variable. -/
def flagOf? (env : Environment) (name : String) : Option Bool := (env.text? name).bind flag?

/-- The user agent that the environment sets; the empty text stands for none. -/
def userAgent? (env : Environment) : Option (Option String) :=
  (env.text? "RESTAPI_USER_AGENT").map fun agent => if agent = "" then none else some agent

/-- The redirect policy that the environment sets. -/
def redirect? (env : Environment) : Option RedirectPolicy :=
  (env.text? "RESTAPI_REDIRECT").bind RedirectPolicy.ofText?

/-- The verification that the environment sets. -/
def verify? (env : Environment) : Option Verification :=
  if env.flagOf? "RESTAPI_INSECURE" = some true then some .disabled
  else (env.text? "RESTAPI_CACERT").map .bundle

/-- The time limit that the environment sets, in seconds. -/
def timeoutSecs? (env : Environment) : Option UInt64 :=
  ((env.text? "RESTAPI_TIMEOUT").bind fun s => Text.unsigned? UInt64.size s.toList).map UInt64.ofNat

/-- Whether the environment sets that a URL is asked exactly as it is given. -/
def strict? (env : Environment) : Option Bool := env.flagOf? "RESTAPI_STRICT"

/-- Whether the environment sets that links to placeholder hosts are corrected. -/
def workaroundUrlBug? (env : Environment) : Option Bool :=
  env.flagOf? "RESTAPI_WORKAROUND_URL_BUG"

end Environment

/-- The settings with those of the environment in their place. -/
def Config.withEnvironment (c : Config) (env : Environment) : Config :=
  { session :=
      { userAgent := env.userAgent?.getD c.session.userAgent
        redirect := env.redirect?.getD c.session.redirect
        verify := env.verify?.getD c.session.verify
        timeoutSecs := (env.timeoutSecs?.map some).getD c.session.timeoutSecs }
    discovery :=
      { strict := env.strict?.getD c.discovery.strict
        workaroundUrlBug := env.workaroundUrlBug?.getD c.discovery.workaroundUrlBug
        placeholderHosts := c.discovery.placeholderHosts } }

end VersionedApi
