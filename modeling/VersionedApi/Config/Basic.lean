import VersionedApi.Session.RedirectPolicy
import VersionedApi.Session.Verification

/-!
# Settings

The settings of sessions and of discovery.  Every setting has a default, and a value may leave any
of them out; a list gives the settings in their order of declaration.  Formats differ in whether
such a list may have more items than there are settings, so `decode` takes what is to be done with
these.
-/

namespace VersionedApi

open Json

/-- What is done with the items of a list beyond the settings that it gives. -/
inductive Surplus where
  /-- The list is refused. -/
  | refused
  /-- They are ignored. -/
  | ignored
deriving DecidableEq, Repr

/-- Refuses a list of more items than there are settings, unless these are ignored. -/
def Surplus.check (s : Surplus) (count : Nat) (items : List Json) : Decoded Unit :=
  match s with
  | .refused => atMost count items
  | .ignored => .ok ()

/-- The settings of a session. -/
structure SessionConfig where
  /-- The user agent, unless none is to be sent. -/
  userAgent : Option String := some "restapi-rs/0.1.0"
  /-- The redirect policy. -/
  redirect : RedirectPolicy := .standard
  /-- The verification of servers. -/
  verify : Verification := .enabled
  /-- The time limit of a request in seconds, if there is one. -/
  timeoutSecs : Option UInt64 := none
deriving DecidableEq, Repr

/-- The settings of discovery. -/
structure DiscoveryConfig where
  /-- Whether a URL is asked exactly as it is given. -/
  strict : Bool := true
  /-- Whether links to placeholder hosts are corrected. -/
  workaroundUrlBug : Bool := true
  /-- The hosts that stand for the host of the service. -/
  placeholderHosts : List String := ["localhost"]
deriving DecidableEq, Repr

/-- All settings. -/
structure Config where
  /-- The settings of sessions. -/
  session : SessionConfig := {}
  /-- The settings of discovery. -/
  discovery : DiscoveryConfig := {}
deriving DecidableEq, Repr

namespace SessionConfig

/-- The settings with those given in place of the defaults. -/
def fill (userAgent : Option (Option String)) (redirect : Option RedirectPolicy)
    (verify : Option Verification) (timeoutSecs : Option (Option UInt64)) : SessionConfig :=
  let base : SessionConfig := {}
  { userAgent := userAgent.getD base.userAgent
    redirect := redirect.getD base.redirect
    verify := verify.getD base.verify
    timeoutSecs := timeoutSecs.getD base.timeoutSecs }

/-- The settings of a value. -/
def decode (surplus : Surplus) : Json → Decoded SessionConfig
  | .obj ms => do
      let redirect ← field? RedirectPolicy.ofJson "redirect" ms
      let timeoutSecs ← field? (asOptional asUInt64) "timeout_secs" ms
      let userAgent ← field? (asOptional asText) "user_agent" ms
      let verify ← field? Verification.ofJson "verify" ms
      pure (fill userAgent redirect verify timeoutSecs)
  | .arr items => do
      let userAgent ← item? (asOptional asText) 0 items
      let redirect ← item? RedirectPolicy.ofJson 1 items
      let verify ← item? Verification.ofJson 2 items
      let timeoutSecs ← item? (asOptional asUInt64) 3 items
      surplus.check 4 items
      pure (fill userAgent redirect verify timeoutSecs)
  | v => mismatch "struct SessionConfig" v

/-- The settings of a value whose lists have no surplus. -/
def ofJson : Json → Decoded SessionConfig := decode .refused

/-- The value of the settings. -/
def toJson (c : SessionConfig) : Json :=
  ofMembers [
    ("user_agent", ofText? c.userAgent),
    ("redirect", c.redirect.toJson),
    ("verify", c.verify.toJson),
    ("timeout_secs", (c.timeoutSecs.map fun n => Json.int n.toNat).getD .null)]

end SessionConfig

namespace DiscoveryConfig

/-- The settings with those given in place of the defaults. -/
def fill (strict workaroundUrlBug : Option Bool) (placeholderHosts : Option (List String)) :
    DiscoveryConfig :=
  let base : DiscoveryConfig := {}
  { strict := strict.getD base.strict
    workaroundUrlBug := workaroundUrlBug.getD base.workaroundUrlBug
    placeholderHosts := placeholderHosts.getD base.placeholderHosts }

/-- The settings of a value. -/
def decode (surplus : Surplus) : Json → Decoded DiscoveryConfig
  | .obj ms => do
      let placeholderHosts ← field? (asList asText) "placeholder_hosts" ms
      let strict ← field? asBool "strict" ms
      let workaroundUrlBug ← field? asBool "workaround_url_bug" ms
      pure (fill strict workaroundUrlBug placeholderHosts)
  | .arr items => do
      let strict ← item? asBool 0 items
      let workaroundUrlBug ← item? asBool 1 items
      let placeholderHosts ← item? (asList asText) 2 items
      surplus.check 3 items
      pure (fill strict workaroundUrlBug placeholderHosts)
  | v => mismatch "struct DiscoveryConfig" v

/-- The settings of a value whose lists have no surplus. -/
def ofJson : Json → Decoded DiscoveryConfig := decode .refused

/-- The value of the settings. -/
def toJson (c : DiscoveryConfig) : Json :=
  ofMembers [
    ("strict", .bool c.strict),
    ("workaround_url_bug", .bool c.workaroundUrlBug),
    ("placeholder_hosts", .arr (c.placeholderHosts.map .str))]

end DiscoveryConfig

namespace Config

/-- The settings of a value. -/
def decode (surplus : Surplus) : Json → Decoded Config
  | .obj ms => do
      let discovery ← field? (DiscoveryConfig.decode surplus) "discovery" ms
      let session ← field? (SessionConfig.decode surplus) "session" ms
      pure { session := session.getD {}, discovery := discovery.getD {} }
  | .arr items => do
      let session ← item? (SessionConfig.decode surplus) 0 items
      let discovery ← item? (DiscoveryConfig.decode surplus) 1 items
      surplus.check 2 items
      pure { session := session.getD {}, discovery := discovery.getD {} }
  | v => mismatch "struct Config" v

/-- The settings of a value whose lists have no surplus. -/
def ofJson : Json → Decoded Config := decode .refused

/-- The value of the settings. -/
def toJson (c : Config) : Json :=
  ofMembers [("session", c.session.toJson), ("discovery", c.discovery.toJson)]

end Config

end VersionedApi
