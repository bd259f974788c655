import VersionedApi.Discovery.Document
import VersionedApi.Discovery.SelfLink
import VersionedApi.Session.Transport
import VersionedApi.Version.Matching

/-!
# Negotiation

A negotiation asks a service for its versions, corrects the links it gives, and chooses a version
that both sides support.  That there is none is an outcome like another; a service that cannot be
reached offers none.
-/

namespace VersionedApi

/-- What is to be negotiated. -/
structure Negotiation where
  /-- The URL of the service. -/
  apiUrl : String
  /-- The versions that the client supports. -/
  clients : List String := []
  /-- The one version that the client wants. -/
  requested : Option String := none
  /-- Whether the URL is asked exactly as it is given. -/
  strict : Bool := true
  /-- Whether links to placeholder hosts are corrected. -/
  workaroundUrlBug : Bool := true
  /-- The placeholder hosts. -/
  placeholderHosts : List String := ["localhost"]
  /-- What is particular to the service. -/
  profile : ServiceProfile := .standard
  /-- The settings of a session of its own. -/
  sessionConfig : SessionConfig := {}

/-- What a negotiation found. -/
structure Negotiated where
  /-- The URL that was asked. -/
  probeUrl : Url
  /-- The versions of the service. -/
  serverVersions : List ApiVersion
  /-- The versions of the client. -/
  clientVersions : List ApiVersion
  /-- The pair that was chosen. -/
  matched : Option VersionMatch

namespace Negotiation

/-- The negotiation with the settings of discovery. -/
def withConfig (n : Negotiation) (c : DiscoveryConfig) : Negotiation :=
  { n with
    strict := c.strict
    workaroundUrlBug := c.workaroundUrlBug
    placeholderHosts := c.placeholderHosts }

/-- The versions of the client: the one it wants, or those it supports. -/
def clientVersions (n : Negotiation) : List ApiVersion :=
  match n.requested with
  | some id => [.ofClient n.profile.apiName id]
  | none => n.clients.map (.ofClient n.profile.apiName)

/-- The URL that is asked. -/
def probeUrl (n : Negotiation) : Except ApiError Url :=
  ((Url.parse n.apiUrl).mapError .invalidUrl).map (n.profile.correction.apply n.strict)

/-- The URL of a version: that of its link to itself, corrected if that is wanted. -/
def entryUrl? (n : Negotiation) (probe : Url) (e : VersionEntry) : Option String :=
  e.selfLink?.map fun link =>
    if n.workaroundUrlBug then correctSelfLink link.href probe n.placeholderHosts else link.href

/-- The version of an entry. -/
def serverVersion (n : Negotiation) (probe : Url) (e : VersionEntry) : ApiVersion :=
  .ofServer n.profile.apiName e (n.entryUrl? probe e)

/-- The document that the outcome of a request gives.  A service that cannot be reached gives the
empty one. -/
def document (probe : Url) : Except ApiError Response → Except ApiError Json × List Logged
  | .ok r => (r.json, [])
  | .error e =>
      if e.isConnection then
        (.ok (.obj []), [⟨none, .unreachable probe.render e.message⟩])
      else (.error e, [])

/-- An event outside the span of the session. -/
def report (event : Event) : Logged := ⟨none, event⟩

/-- The entries that the service lists. -/
def queryServer (n : Negotiation) (s : Session) (client : Client) (steps : Nat) :
    Trace (List VersionEntry) :=
  match n.probeUrl with
  | .error e => .done (.error e)
  | .ok probe =>
      let asked := (s.request client steps "GET" probe.render {}).conclude fun outcome =>
        let (document, events) := document probe outcome
        (document.bind fun d => extractVersions d n.profile.shape, events)
      asked.after [report (.querying n.profile.apiName probe.render)]

/-- The versions of the service. -/
def queryServerVersions (n : Negotiation) (s : Session) (client : Client) (steps : Nat) :
    Trace (List ApiVersion) :=
  match n.probeUrl with
  | .error e => .done (.error e)
  | .ok probe =>
      (n.queryServer s client steps).conclude fun
        | .error e => (.error e, [])
        | .ok entries =>
            let versions := entries.map (n.serverVersion probe)
            (.ok versions, [report (.found n.profile.apiName versions.length)])

/-- The event of a finished negotiation. -/
def verdict (n : Negotiation) (found : Negotiated) : Event :=
  match found.matched with
  | some m => .negotiated n.profile.apiName m.server.id m.client.id
  | none => .incompatible n.profile.apiName found.probeUrl.render

/-- The negotiation over a session. -/
def run (n : Negotiation) (s : Session) (client : Client) (steps : Nat) : Trace Negotiated :=
  match n.probeUrl with
  | .error e => .done (.error e)
  | .ok probe =>
      (n.queryServerVersions s client steps).conclude fun
        | .error e => (.error e, [])
        | .ok servers =>
            let clients := n.clientVersions
            let found : Negotiated := ⟨probe, servers, clients, matchVersions servers clients⟩
            (.ok found, [report (n.verdict found)])

/-- The negotiation over a session of its own. -/
def runAlone (n : Negotiation) (network : Network) (steps : Nat) : Trace Negotiated :=
  match network.session n.sessionConfig with
  | .error e => .done (.error e)
  | .ok s => n.run s network.client steps

end Negotiation

end VersionedApi
