import VersionedApi.Proofs.Discovery.Run
import VersionedApi.Proofs.Session.Course

/-!
# Negotiations that list versions

A negotiation whose call ends with a document that lists entries succeeds with what is found in them
(`run_findings`).  Links are corrected by the probe, which is the URL that was asked first, and not
by a URL to which the service redirected.
-/

namespace VersionedApi

namespace Negotiation

/-- A negotiation asks first what the text of the probe says, which is the probe itself if this is
read back from its text, as it is for HTTP under every known correction.  If the call ends with a
document that lists entries, the negotiation succeeds, with the findings from these entries and the
probe. -/
theorem run_findings (n : Negotiation) (s : Session) (client : Client) (steps : Nat) {url : Url}
    (hurl : Url.parse n.apiUrl = .ok url) :
    let probe := n.profile.correction.apply n.strict url
    let call := s.request client steps "GET" probe.render {}
    let t := n.run s client steps
    t.sent = call.sent ∧
      (∀ first, t.sent[0]? = some first → Url.parse probe.render = .ok first.url ∧
        (probe.RoundTrips → first.url = probe)) ∧
      (n.profile.correction.Known → url.scheme = "http" ∨ url.scheme = "https" →
        probe.RoundTrips) ∧
      ∀ r document entries, call.outcome = some (.ok r) → r.json = .ok document →
        extractVersions document n.profile.shape = .ok entries →
        ∃ found, t.outcome = some (.ok found) ∧ n.Findings probe entries found := by
  intro probe call t
  obtain ⟨hsent, houtcome⟩ := run_of_probe (probeUrl_of_parse hurl) s client steps
  refine ⟨hsent, fun first hfirst => ?_, fun hknown => hknown.roundTrips n.strict hurl,
    fun r document entries hcall hjson hextract => ?_⟩
  · rw [hsent] at hfirst
    obtain ⟨hchain, _⟩ := s.request_sent_chain client steps "GET" probe.render {}
    obtain ⟨target, htarget, hasked⟩ := hchain first hfirst
    have hplain : first.url = target := hasked
    rw [hplain]
    exact ⟨htarget, fun htrips => Except.ok.inj (htarget.symm.trans htrips)⟩
  · refine ⟨n.found probe entries, ?_, findings_iff.mpr rfl⟩
    change (n.run s client steps).outcome = _
    have hread : (Negotiation.document probe (.ok r)).1 = .ok document := hjson
    rw [houtcome, hcall, Option.map_some, conclusion, hread, Except.bind, hextract]
    rfl

/-- A segment is taken off the URL, the service redirects to another host, and the last of two links
is moved to the host that was asked first. -/
theorem run_findings_moved :
    let placed (host : String) (port : Option UInt16) (segment : String) : Url :=
      ⟨"http", some { host := some (.name host), port }, .rooted [segment], none, none⟩
    let n : Negotiation :=
      { apiUrl := "http://k:5000/v2.0", clients := ["2"], requested := some "vv3"
        strict := false, profile := .identity }
    let s : Session := ⟨Credentials.none.authorize, none, .standard, .enabled⟩
    let hop : Response :=
      ⟨302, .ofList [(.location, { bytes := Utf8.encode "//b" })], placed "k" (some 5000) "",
        .buffered [], []⟩
    let links : List Link :=
      [⟨"http://x/", some "self", none⟩, ⟨"http://LocalHost:1/v3?", some "self", none⟩]
    let listed : Response :=
      ⟨300, .empty, placed "b" none "", .buffered (Utf8.encode
        ("\x7b\"versions\":\x7b\"values\":[\x7b\"id\":\"v3.1\",\"links\":[" ++
          "[\"http://x/\",\"self\"],[\"http://LocalHost:1/v3?\",\"self\"]]\x7d]\x7d\x7d")), []⟩
    let client : Client
      | [_] => .ok hop
      | _ => .ok listed
    let t := n.run s client 5
    ∃ found v, t.outcome = some (.ok found) ∧ found.serverVersions = [v] ∧ v.links = links ∧
      v.url = some "http://k:5000/v3?" := by
  intro placed n s hop links listed client t
  let url := placed "k" (some 5000) "v2.0"
  let probe := placed "k" (some 5000) ""
  let link (href : String) : Json := .arr [.str href, .str "self"]
  let document : Json := .obj [("versions", .obj [("values", .arr [.obj
    [("id", .str "v3.1"), ("links", .arr [link "http://x/", link "http://LocalHost:1/v3?"])]])])]
  have hurl : Url.parse n.apiUrl = .ok url := by decide +kernel
  have hprobe : n.profile.correction.apply n.strict url = probe := by decide +kernel
  have hjson : listed.json = .ok document := by decide +kernel
  have hextract : extractVersions document n.profile.shape = .ok [⟨"v3.1", none, links, []⟩] := by
    decide +kernel
  let start : Flight := s.departure "GET" {} .empty probe
  let next : Flight := start.redirected hop (.limit 29) (placed "b" none "")
  have hread : Url.parse probe.render = .ok probe := by decide +kernel
  have htarget : Flight.target probe hop = .ok (placed "b" none "") := by decide +kernel
  have hhop : Flight.Hop client [] start next :=
    ⟨hop, rfl, Flight.receive_eq_onward_iff.mpr ⟨rfl, _, _, rfl, htarget, rfl⟩⟩
  have hanswer : client ([start.request] ++ [next.request]) = .ok listed := rfl
  have hcall : (s.request client 5 "GET" probe.render {}).outcome =
      some (.ok (next.deliver listed)) :=
    calc (s.request client 5 "GET" probe.render {}).outcome
        = (start.run client s.span 5 []).outcome :=
          congrArg Trace.outcome (s.request_of_parse client 5 "GET" hread rfl)
      _ = (next.run client s.span 4 [start.request]).outcome := (Flight.run_of_hop hhop).2
      _ = some (.ok (next.deliver listed)) :=
          congrArg Trace.outcome (Flight.run_of_final hanswer rfl)
  obtain ⟨_, _, _, hfinds⟩ := run_findings n s client 5 hurl
  rw [hprobe] at hfinds
  obtain ⟨found, houtcome, hfound⟩ := hfinds (next.deliver listed) document _ hcall hjson hextract
  obtain ⟨v, rest, hv, hrest, hservers⟩ := List.forall₂_cons_left_iff.mp hfound.servers
  rw [List.forall₂_nil_left_iff] at hrest
  subst hrest
  refine ⟨found, v, houtcome, hservers, hv.links, ?_⟩
  rw [hv.url_some [⟨"http://x/", some "self", none⟩] _ [] rfl rfl (by simp)]
  decide +kernel

end Negotiation

end VersionedApi
