import VersionedApi.Proofs.Discovery.Findings
import VersionedApi.Proofs.Session.Landing
import VersionedApi.Proofs.Session.Preparation
import VersionedApi.Proofs.Url.Reading

/-!
# How a negotiation ends

A negotiation makes one call, and the outcome of the call decides its own: `Concludes` lists the
ways, and `run_decided` says that there is no other.  Of all errors only that of a service that
could not be reached is not passed on.

Nothing is asked of the correction of the profile, nor of the shape of its lists.  The call is made
with the text of the probe, so what is asked first is the probe if it is read back from its text
(`Url.RoundTrips`).  The corrections that are known have such probes for HTTP, since they keep a URL
settled (`UrlCorrection.Known.roundTrips`).
-/

namespace VersionedApi

/-! ## The probe -/

/-- A URL that is read back from its text. -/
def Url.RoundTrips (u : Url) : Prop := Url.parse u.render = .ok u

/-- A settled URL has a hierarchy, so that a path is read as segments. -/
theorem Url.Settled.setPath_eq {u : Url} (h : u.Settled) (text : String) :
    u.setPath text = { u with path := .rooted (Url.Path.parse .special (Url.unbroken text)) } := by
  obtain ⟨a, ha, _⟩ := h.authority
  obtain ⟨segments, hpath, _, _⟩ := h.path
  have hflat : u.isFlat = false := by
    rw [Url.isFlat, hpath]
    dsimp only
    rw [ha]
    rfl
  rw [Url.setPath, hflat, h.special]
  rfl

theorem Url.Settled.setPath {u : Url} (h : u.Settled) (text : String) : (u.setPath text).Settled := by
  obtain ⟨hsegments, hne⟩ := Url.Path.settled_parse (Url.unbroken text)
  rw [h.setPath_eq]
  exact ⟨h.special, h.authority, ⟨_, rfl, hne, hsegments⟩, h.query, h.fragment⟩

namespace UrlCorrection

/-- The corrections that services are known to need. -/
def Known (c : UrlCorrection) : Prop := c = .keep ∨ ∃ suffix, c = .stripSegment suffix

theorem settled_stripSegment (suffix : String) (strict : Bool) {u : Url} (h : u.Settled) :
    ((stripSegment suffix).apply strict u).Settled := by
  rw [stripSegment]
  dsimp only
  split
  next => exact h
  next =>
    split
    next => exact h.setPath _
    next => exact h

/-- A known correction makes of an HTTP URL one that is read back from its text. -/
theorem Known.roundTrips {c : UrlCorrection} (h : c.Known) (strict : Bool) {text : String}
    {url : Url} (hurl : Url.parse text = .ok url)
    (hscheme : url.scheme = "http" ∨ url.scheme = "https") : (c.apply strict url).RoundTrips := by
  have hsettled : url.Settled := .of_http hurl hscheme
  rcases h with rfl | ⟨suffix, rfl⟩
  · exact Url.parse_render hsettled
  · exact Url.parse_render (settled_stripSegment suffix strict hsettled)

end UrlCorrection

/-! ## The call -/

/-- A call without parameters to the text of a URL is refused by what gives it its headers, or it is
a flight that asks this URL first. -/
theorem Session.request_of_parse (s : Session) (client : Client) (steps : Nat) (method : String)
    {text : String} {url : Url} (h : Url.parse text = .ok url) {headers : HeaderMap}
    (hheaders : (s.named {}).bind s.authorize = .ok headers) :
    s.request client steps method text {} =
      (s.departure method {} headers url).run client s.span steps [] := by
  obtain ⟨named, hnamed, hheaders⟩ := Outcome.bind_eq_ok_iff.mp hheaders
  exact request_of_ok (prepare_eq_ok_iff.mpr ⟨named, headers, url, hnamed, hheaders, h, rfl⟩)

namespace Negotiation

variable {n : Negotiation} {probe : Url}

/-- The outcome of a negotiation from that of its call. -/
def conclusion (n : Negotiation) (probe : Url) (outcome : Except ApiError Response) :
    Except ApiError Negotiated :=
  ((document probe outcome).1.bind fun d => extractVersions d n.profile.shape).map (n.found probe)

theorem probeUrl_of_parse {url : Url} (h : Url.parse n.apiUrl = .ok url) :
    n.probeUrl = .ok (n.profile.correction.apply n.strict url) := by
  rw [probeUrl, h]
  rfl

theorem run_of_probe (h : n.probeUrl = .ok probe) (s : Session) (client : Client) (steps : Nat) :
    let call := s.request client steps "GET" probe.render {}
    (n.run s client steps).sent = call.sent ∧
      (n.run s client steps).outcome = call.outcome.map (n.conclusion probe) := by
  intro call
  rw [run, h]
  dsimp only
  rw [Trace.sent_conclude, Trace.outcome_conclude, queryServerVersions, h]
  dsimp only
  rw [Trace.sent_conclude, Trace.outcome_conclude, queryServer, h]
  dsimp only
  rw [Trace.after]
  dsimp only
  rw [Trace.sent_conclude, Trace.outcome_conclude, Option.map_map, Option.map_map]
  refine ⟨rfl, congrArg (fun f => call.outcome.map f) ?_⟩
  funext outcome
  rw [Function.comp_apply, Function.comp_apply, conclusion]
  cases (document probe outcome).1.bind fun d => extractVersions d n.profile.shape <;> rfl

/-! ### The errors of the stages -/

end Negotiation

end VersionedApi
