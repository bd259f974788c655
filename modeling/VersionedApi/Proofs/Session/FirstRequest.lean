import VersionedApi.Proofs.Session.Course
import VersionedApi.Proofs.Session.Headers
import VersionedApi.Proofs.Url.Form

/-!
# The first request of a call

The first request of a call is the one that was prepared (`eq_departure_of_head`).  So its headers
are those of the caller with three of them put in place, and its body is that of the options
(`request_first_lines`).

Its URL is that of the call with the parameters added to the query, where they are read behind the
pairs that the query had (`request_first_pairs`).
-/

namespace VersionedApi.Session

variable {s : Session} {client : Client} {steps : Nat} {method url : String} {o : RequestOptions}
  {first : Request}

/-- The first request is the one that was prepared. -/
theorem eq_departure_of_head (h : (s.request client steps method url o).sent.head? = some first) :
    ∃ named headers target, s.named o = .ok named ∧ s.authorize named = .ok headers ∧
      Url.parse url = .ok target ∧ first = (s.departure method o headers target).request := by
  cases hprepare : s.prepare method url o with
  | error e =>
      rw [request_of_error hprepare] at h
      cases h
  | ok f =>
      obtain ⟨named, headers, target, hnamed, hheaders, htarget, rfl⟩ :=
        prepare_eq_ok_iff.mp hprepare
      refine ⟨named, headers, target, hnamed, hheaders, htarget, ?_⟩
      rw [request_of_ok hprepare, Flight.sent_eq_map_course, List.head?_map,
        Option.map_eq_some_iff] at h
      obtain ⟨g, hg, rfl⟩ := h
      rw [List.head?_eq_getElem?] at hg
      rw [Flight.eq_of_course_zero hg]

theorem head_of_prepare {f : Flight} (h : s.prepare method url o = .ok f) :
    (s.request client (steps + 1) method url o).sent.head? = some f.request := by
  rw [request_of_ok h, Flight.head?_sent]

/-! ## The headers and the body -/

/-- The values that a call sends under a name: those of the caller, but for the type of a JSON
body, the user agent and the token. -/
def valuesSent (c : SessionConfig) (k : Credentials) (o : RequestOptions) (name : HeaderName) :
    List HeaderValue :=
  let given := o.headers.lines name
  if name = .contentType then typeSent o.json given
  else if name = .userAgent then agentSent o.userAgent given c.userAgent
  else if name = .authToken then k.tokenSent given
  else given

/-- The first request of a call carries the JSON of the options, or else their octets.  Its headers
have under each name the values that `valuesSent` names, and no name without values. -/
theorem request_first_lines (c : SessionConfig) (k : Credentials) (client : Client) (steps : Nat)
    (method url : String) (o : RequestOptions) (ho : o.headers.WellFormed) {first : Request}
    (h : ((ofConfig c k.authorize).request client steps method url o).sent.head? = some first) :
    first.body = o.json.elim o.data (fun value => some (Utf8.encode value.render)) ∧
      first.headers.WellFormed ∧ ∀ name, first.headers.lines name = valuesSent c k o name := by
  obtain ⟨named, headers, target, hnamed, hheaders, _, rfl⟩ := eq_departure_of_head h
  have hauthorize : k.authorize named = .ok headers := hheaders
  have hwell : headers.WellFormed :=
    Credentials.wellFormed_authorize hauthorize (wellFormed_named ho hnamed)
  refine ⟨?_, hwell, fun name => ?_⟩
  · show body o = _
    rw [body]
    cases o.json <;> rfl
  · show headers.lines name = _
    rw [hwell.lines_eq, Credentials.values_authorize hauthorize, values_named ho hnamed,
      values_named ho hnamed, if_neg (show HeaderName.authToken ≠ .userAgent by decide)]
    simp only [values_typed, valuesSent, ho.lines_eq]
    rw [if_neg (show HeaderName.authToken ≠ .contentType by decide)]
    by_cases htype : name = .contentType
    · subst htype
      rfl
    by_cases hagent : name = .userAgent
    · subst hagent
      rfl
    by_cases htoken : name = .authToken
    · subst htoken
      rfl
    · simp only [htype, hagent, htoken, if_false]

/-- Every value that the caller gives for the three names is replaced, and both values of another
one stay, the hidden one hidden. -/
theorem request_first_lines_replaced :
    let plain (text : String) : HeaderValue := { bytes := Utf8.encode text }
    let note : HeaderName := ⟨"x-note"⟩
    let secret : HeaderValue := { bytes := [0x09, 0xE9], sensitive := true }
    let given : HeaderMap := .ofList [(.contentType, plain "text/html"), (note, secret),
      (.contentType, plain "a/b"), (.authToken, plain "old"), (.userAgent, plain "mine"),
      (note, plain "n")]
    let o : RequestOptions :=
      { json := some (.obj [("a", .int 1)]), data := some [0], headers := given,
        userAgent := some "own", params := [("p", "q")] }
    let c : SessionConfig := { userAgent := some "\n" }
    let s := ofConfig c (Credentials.token "new").authorize
    let first : Request :=
      { method := "PUT"
        url := ⟨"http", some { host := some (.name "a") }, .rooted [""], some "p=q", none⟩
        headers := .ofList [(.contentType, plain "application/json"), (note, secret),
          (note, plain "n"), (.authToken, { plain "new" with sensitive := true }),
          (.userAgent, plain "own")]
        body := some (Utf8.encode "\x7b\"a\":1\x7d"), verify := .enabled, timeout := none
        stream := false }
    let call := s.request (fun _ => .error (.http "closed")) 1 "PUT" "http://a" o
    given.WellFormed ∧ call.sent.head? = some first ∧
      first.body = some (Utf8.encode (Json.obj [("a", .int 1)]).render) ∧
      first.headers.lines .contentType = [plain "application/json"] ∧
      first.headers.lines .userAgent = [plain "own"] ∧
      first.headers.lines .authToken = [{ plain "new" with sensitive := true }] ∧
      first.headers.lines note = [secret, plain "n"] := by
  intro plain note secret given o c s first call
  have hgiven : given.WellFormed := HeaderMap.wellFormed_iff.mpr ⟨_, rfl⟩
  let target : Url := ⟨"http", some { host := some (.name "a") }, .rooted [""], none, none⟩
  have hadded : first.url = target.addPairs o.params := by decide +kernel
  have hencoded : first.body = body o := by decide +kernel
  have hprepare : s.prepare "PUT" "http://a" o = .ok ⟨first, .standard, []⟩ :=
    prepare_eq_ok_iff.mpr ⟨_, first.headers, target, rfl, by decide +kernel, by decide +kernel,
      by rw [departure, ← hadded, ← hencoded]; rfl⟩
  have hfirst : call.sent.head? = some first := head_of_prepare hprepare
  obtain ⟨hbody, -, hlines⟩ :=
    request_first_lines c (.token "new") _ 1 "PUT" "http://a" o hgiven hfirst
  exact ⟨hgiven, hfirst, hbody, hlines _, hlines _, hlines _, hlines _⟩

/-! ## The URL -/

/-- The first request of a call goes to the URL of the call with the parameters added to its query,
where they are read behind the pairs that were there.  The text of this URL is read as the same
one. -/
theorem request_first_pairs (s : Session) (client : Client) (steps : Nat) (method url : String)
    (o : RequestOptions) {first : Request}
    (h : (s.request client steps method url o).sent.head? = some first) :
    ∃ target, Url.parse url = .ok target ∧ first.url = { target with query := first.url.query } ∧
      first.url.pairs = target.pairs ++ o.params ∧ (o.params = [] → first.url = target) ∧
      (target.scheme = "http" ∨ target.scheme = "https" →
        Url.parse first.url.render = .ok first.url) := by
  obtain ⟨_, _, target, _, _, htarget, rfl⟩ := eq_departure_of_head h
  refine ⟨target, htarget, Url.addPairs_eq target o.params, Url.pairs_addPairs target o.params,
    fun hnone => ?_, fun hscheme => ?_⟩
  · show target.addPairs o.params = target
    rw [hnone]
    rfl
  · have hsettled : (target.addPairs o.params).Settled :=
      (Url.Settled.of_http htarget hscheme).addPairs o.params
    exact Url.parse_render hsettled

/-- Signs of the form in a parameter, a query that ends in an ampersand, and a fragment. -/
theorem request_first_pairs_signs :
    let s : Session := ofConfig {}
    let o : RequestOptions := { params := [("a&=", "1 +%#"), ("", ""), ("é", "?")] }
    let place (query : String) : Url :=
      ⟨"https", some { username := "u", host := some (.name "a"), port := some 8443 },
        .rooted ["x"], some query, some "f"⟩
    let url := "https://u@a:8443/x?k=%26&#f"
    let first : Request :=
      { method := "GET", url := place "k=%26&&a%26%3D=1+%2B%25%23&=&%C3%A9=%3F"
        headers := .ofList [(.userAgent, { bytes := Utf8.encode "restapi-rs/0.1.0" })]
        body := none, verify := .enabled, timeout := none, stream := false }
    let call := s.request (fun _ => .error (.http "closed")) 1 "GET" url o
    call.sent.head? = some first ∧ Url.parse url = .ok (place "k=%26&") ∧
      first.url.pairs = [("k", "&"), ("a&=", "1 +%#"), ("", ""), ("é", "?")] ∧
      Url.parse first.url.render = .ok first.url := by
  intro s o place url first call
  have hurl : Url.parse url = .ok (place "k=%26&") := by decide +kernel
  have hadded : first.url = (place "k=%26&").addPairs o.params := by rfl
  have hprepare : s.prepare "GET" url o = .ok ⟨first, .standard, []⟩ :=
    prepare_eq_ok_iff.mpr ⟨first.headers, first.headers, _, by decide +kernel, rfl, hurl,
      by rw [departure, ← hadded]; rfl⟩
  have hfirst : call.sent.head? = some first := head_of_prepare hprepare
  obtain ⟨target, htarget, -, hpairs, -, hread⟩ := request_first_pairs s _ 1 "GET" url o hfirst
  obtain rfl : place "k=%26&" = target := Except.ok.inj (hurl.symm.trans htarget)
  refine ⟨hfirst, hurl, hpairs.trans ?_, hread (Or.inr rfl)⟩
  decide +kernel

end VersionedApi.Session
