import VersionedApi.Proofs.Http.Header
import VersionedApi.Proofs.Session.Budget

/-!
# The log of a call

The log of a call is made of one report for each request that it sends: the request, the response
to it if there is one, and the URL at which the call goes on (`Span.report`).  Nothing stands between
the reports.  Behind them stands a warning if the last response redirects, the policy would still
allow it, and the place it names cannot be reached (`Ending`); no report warns of anything.

`Flight.run_events` says this of a flight, by recursion on its steps: a hop puts one report in front
of the log and keeps the way it ends (`stranded_of_hop_iff`).
-/

namespace VersionedApi

/-! ## Reports -/

/-- What is reported of a request: the command line that repeats it, and its body if it has one. -/
def Request.reported (q : Request) : List Event :=
  match q.body with
  | none => [.request q.curl]
  | some bytes => [.request q.curl, .requestBody (Utf8.lossy bytes)]

/-- What is reported of a response: its status and its headers, and its body and the encoding of it
if the body is in memory. -/
def Response.reported (r : Response) : List Event :=
  match r.body with
  | .streaming .. => [.response r.status r.headers.shown]
  | .buffered bytes =>
      [.response r.status r.headers.shown, .responseBody (Utf8.lossy bytes), .encoding r.encoding?]

/-- The report of a request, with the answer to it and the URL of the request that follows, if one
does. -/
def Span.report (span : Span) (q : Request) (answer : Except ApiError Response)
    (next : Option Url) : List Logged :=
  span.log q.reported ++
    match answer with
    | .error _ => []
    | .ok r => span.log r.reported ++ next.toList.map fun url => ⟨none, .following r.status url.render⟩

/-- The report of a response shows each of its headers. -/
theorem Response.exists_headers_reported (r : Response) :
    ∃ text, .response r.status text ∈ r.reported ∧
      ∀ line ∈ r.headers.toList, HeaderMap.StandsIn line.1 line.2 text := by
  refine ⟨r.headers.shown, ?_, r.headers.standsIn_shown⟩
  rw [reported]
  cases r.body <;> exact List.mem_cons_self

theorem Request.ofRequest_eq_reported (q : Request) : Event.ofRequest q = q.reported := by
  rw [Event.ofRequest, Request.reported]
  cases q.body <;> rfl

theorem Response.ofResponse_eq_reported (r : Response) : Event.ofResponse r = r.reported := by
  rw [Event.ofResponse, Response.reported, Response.bufferText?, Response.buffer?]
  cases r.body <;> rfl

/-- No report warns of anything. -/
theorem Span.level_report {span : Span} {q : Request} {answer : Except ApiError Response}
    {next : Option Url} : ∀ l ∈ span.report q answer next, l.event.level ≠ .warn := by
  have hrequest : ∀ event ∈ q.reported, event.level ≠ .warn := by
    rw [Request.reported]
    cases q.body <;> simp [Event.level]
  have hresponse (r : Response) : ∀ event ∈ r.reported, event.level ≠ .warn := by
    rw [Response.reported]
    cases r.body <;> simp [Event.level]
  have hlog {events : List Event} (h : ∀ event ∈ events, event.level ≠ .warn) :
      ∀ l ∈ span.log events, l.event.level ≠ .warn := by
    intro l hl
    obtain ⟨event, hevent, rfl⟩ := List.mem_map.mp hl
    exact h event hevent
  intro l hl
  rcases List.mem_append.mp hl with hl | hl
  · exact hlog hrequest l hl
  · cases answer with
    | error e => cases hl
    | ok r =>
        rcases List.mem_append.mp hl with hl | hl
        · exact hlog (hresponse r) l hl
        · obtain ⟨url, _, rfl⟩ := List.mem_map.mp hl
          exact Level.noConfusion

namespace Flight

/-! ## Redirects that lead nowhere -/

/-- Why a redirect cannot be followed from the URL that was asked. -/
inductive LeadsNowhere (url : Url) (r : Response) : Unresolved → Prop where
  /-- The response gives no location. -/
  | missing (h : r.headers.values .location = []) : LeadsNowhere url r .noLocation
  /-- The first location is not printable. -/
  | unprintable {value : HeaderValue} (hvalue : (r.headers.values .location).head? = some value)
      (htext : value.text? = none) : LeadsNowhere url r .noLocation
  /-- The first location cannot be joined to the URL. -/
  | unjoinable {value : HeaderValue} {location : String} {fault : UrlFault}
      (hvalue : (r.headers.values .location).head? = some value)
      (htext : value.text? = some location) (hjoin : url.join location = .error fault) :
      LeadsNowhere url r (.badLocation fault)

theorem target_eq_error_iff {url : Url} {r : Response} {reason : Unresolved} :
    target url r = .error reason ↔ LeadsNowhere url r reason := by
  have hlocation : r.location? = ((r.headers.values .location).head?).bind HeaderValue.text? := rfl
  rw [target]
  constructor
  · intro h
    cases hvalue : (r.headers.values .location).head? with
    | none =>
        rw [hlocation, hvalue] at h
        cases h
        exact .missing (List.head?_eq_none_iff.mp hvalue)
    | some value =>
        cases htext : value.text? with
        | none =>
            rw [hlocation, hvalue, Option.bind_some, htext] at h
            cases h
            exact .unprintable hvalue htext
        | some location =>
            rw [hlocation, hvalue, Option.bind_some, htext] at h
            obtain ⟨fault, hjoin, rfl⟩ := Outcome.mapError_eq_error_iff.mp h
            exact .unjoinable hvalue htext hjoin
  · intro h
    cases h with
    | missing h => rw [hlocation, h]; rfl
    | unprintable hvalue htext => rw [hlocation, hvalue, Option.bind_some, htext]
    | unjoinable hvalue htext hjoin =>
        rw [hlocation, hvalue, Option.bind_some, htext]
        dsimp only
        rw [hjoin]
        rfl

/-- A flight is stranded if the response redirects and the policy allows it, but there is no place
to go on to. -/
theorem receive_eq_stranded_iff {f : Flight} {r : Response} {reason : Unresolved} :
    f.receive r = .stranded reason ↔
      r.isRedirect = true ∧ f.budget.Allows 0 ∧ target f.request.url r = .error reason := by
  rw [receive]
  cases r.isRedirect with
  | false => simp
  | true =>
      cases htake : f.budget.takeHop with
      | none => simp [(f.budget.takeHop_eq_none_iff).mp htake]
      | some budget =>
          have hallows : f.budget.Allows 0 := by
            refine Classical.byContradiction fun hspent => ?_
            rw [f.budget.takeHop_eq_none_iff.mpr hspent] at htake
            cases htake
          cases target f.request.url r with
          | error reason' => simp [hallows]
          | ok url => simp

/-! ## The end of a log -/

/-- The last of the requests sent under a policy was answered by a redirect that the policy would
still allow and that leads nowhere. -/
structure Stranded (policy : RedirectPolicy) (client : Client) (before sent : List Request)
    (r : Response) (reason : Unresolved) : Prop where
  /-- The last response. -/
  response : client (before ++ sent) = .ok r
  /-- It redirects. -/
  redirects : r.status ∈ [301, 302, 303, 305, 307]
  /-- The policy allows one redirect more than were followed. -/
  allowed : policy.Allows (sent.length - 1)
  /-- The redirect cannot be followed from the URL of the last request. -/
  nowhere : ∃ q, sent.getLast? = some q ∧ LeadsNowhere q.url r reason

/-- How a log ends behind its last report. -/
inductive Ending (span : Span) (policy : RedirectPolicy) (client : Client)
    (before sent : List Request) : List Logged → Prop where
  /-- With a warning if the flight is stranded. -/
  | warned {r : Response} {reason : Unresolved} (h : Stranded policy client before sent r reason) :
      Ending span policy client before sent
        [⟨some span, .unresolved r.status r.url.render reason.message⟩]
  /-- Without one if it is not. -/
  | quiet (h : ∀ r reason, ¬ Stranded policy client before sent r reason) :
      Ending span policy client before sent []

section

variable {client : Client} {span : Span} {steps : Nat} {before sent : List Request}
  {f next : Flight} {r : Response} {reason : Unresolved}

theorem not_stranded_nil {policy : RedirectPolicy} : ¬ Stranded policy client before [] r reason := by
  rintro ⟨_, _, _, _, hlast, _⟩
  cases hlast

theorem stranded_singleton_iff :
    Stranded f.budget client before [f.request] r reason ↔
      client (before ++ [f.request]) = .ok r ∧ f.receive r = .stranded reason := by
  rw [receive_eq_stranded_iff, isRedirect_iff, target_eq_error_iff]
  constructor
  · rintro ⟨hr, hstatus, hallows, _, hlast, hnowhere⟩
    cases hlast
    exact ⟨hr, hstatus, hallows, hnowhere⟩
  · rintro ⟨hr, hstatus, hallows, hnowhere⟩
    exact ⟨hr, hstatus, hallows, _, rfl, hnowhere⟩

/-- A flight that hops is stranded if it is stranded behind the hop. -/
theorem stranded_of_hop_iff (h : Hop client before f next) :
    Stranded f.budget client before (f.request :: sent) r reason ↔
      Stranded next.budget client (before ++ [f.request]) sent r reason := by
  have happend : before ++ f.request :: sent = before ++ [f.request] ++ sent :=
    List.append_cons before f.request sent
  cases sent with
  | nil =>
      constructor
      · intro hstranded
        obtain ⟨hr, hland⟩ := stranded_singleton_iff.mp hstranded
        obtain ⟨r', hr', hnext⟩ := h
        cases hr.symm.trans hr'
        cases hland.symm.trans hnext
      · intro hstranded
        exact absurd hstranded not_stranded_nil
  | cons q rest =>
      have hallows := h.allows_iff rest.length
      constructor
      · rintro ⟨hr, hstatus, hallowed, hnowhere⟩
        exact ⟨happend ▸ hr, hstatus, hallows.mpr hallowed, hnowhere⟩
      · rintro ⟨hr, hstatus, hallowed, hnowhere⟩
        exact ⟨happend ▸ hr, hstatus, hallows.mp hallowed, hnowhere⟩

/-! ## The log of a run -/

theorem exchanged_eq_report (span : Span) (f : Flight) (r : Response) :
    exchanged span f r = span.report f.request (.ok r) none := by
  rw [exchanged, Request.ofRequest_eq_reported, Response.ofResponse_eq_reported, Span.report]
  simp

/-- The URL of the request that follows a number of requests, if the flight sends one. -/
def following (client : Client) (span : Span) (steps : Nat) (before : List Request) (f : Flight)
    (k : Nat) : Option Url :=
  ((run client span (steps + 1) before f).sent[k + 1]?).map Request.url

/-- The reports of the requests that a flight sends in a number of steps. -/
def reports (client : Client) (span : Span) (steps : Nat) (before : List Request) (f : Flight) :
    List Logged :=
  let sent := (run client span steps before f).sent
  (sent.mapIdx fun k q =>
    span.report q (client (before ++ sent.take (k + 1)))
      (following client span steps before f k)).flatten

theorem reports_of_hop (h : Hop client before f next) :
    reports client span (steps + 1) before f =
      span.report f.request (client (before ++ [f.request])) (some next.request.url) ++
        reports client span steps (before ++ [f.request]) next := by
  have hfollowing (k : Nat) : following client span (steps + 1) before f k =
      ((run client span (steps + 1) (before ++ [f.request]) next).sent[k]?).map Request.url := by
    rw [following, (run_of_hop h).1, List.getElem?_cons_succ]
  have hfirst : following client span (steps + 1) before f 0 = some next.request.url := by
    rw [hfollowing, ← List.head?_eq_getElem?, head?_sent, Option.map_some]
  have hrest (sent : List Request) (k : Nat) (q : Request) :
      span.report q (client (before ++ f.request :: sent.take (k + 1)))
          (following client span (steps + 1) before f (k + 1)) =
        span.report q (client (before ++ [f.request] ++ sent.take (k + 1)))
          (following client span steps (before ++ [f.request]) next k) := by
    rw [List.append_cons, hfollowing]
    rfl
  simp only [reports, (run_of_hop h).1, List.mapIdx_cons, List.flatten_cons, List.take_succ_cons,
    List.take_zero, hrest, hfirst]

theorem reports_of_stop (h : ∀ next, ¬ Hop client before f next) :
    reports client span (steps + 1) before f =
      span.report f.request (client (before ++ [f.request])) none := by
  simp [reports, following, (run_of_stop h).1]

/-- The events of a run are the reports of its requests and what its log ends with. -/
theorem run_events (client : Client) (span : Span) (steps : Nat) (before : List Request)
    (f : Flight) :
    ∃ ending, Ending span f.budget client before (run client span steps before f).sent ending ∧
      (run client span steps before f).events = reports client span steps before f ++ ending := by
  induction steps generalizing before f with
  | zero => exact ⟨[], .quiet fun _ _ => not_stranded_nil, rfl⟩
  | succ steps ih =>
      cases hr : client (before ++ [f.request]) with
      | error e =>
          have hstop := not_hop_of_error hr
          refine ⟨[], ?_, ?_⟩
          · rw [(run_of_stop hstop).1]
            refine .quiet fun r reason h => ?_
            cases hr.symm.trans h.response
          · rw [reports_of_stop hstop, run_of_error hr, hr, Request.ofRequest_eq_reported]
            simp [Span.report]
      | ok r =>
          cases hland : f.receive r with
          | final =>
              have hstop := not_hop_of_receive hr fun next h => (nomatch hland.symm.trans h)
              refine ⟨[], ?_, ?_⟩
              · rw [(run_of_stop hstop).1]
                refine .quiet fun r' reason h => ?_
                obtain ⟨hr', hstranded⟩ := stranded_singleton_iff.mp h
                cases hr.symm.trans hr'
                cases hland.symm.trans hstranded
              · rw [reports_of_stop hstop, run_of_final hr hland, hr, exchanged_eq_report]
                exact (List.append_nil _).symm
          | stranded reason =>
              have hstop := not_hop_of_receive hr fun next h => (nomatch hland.symm.trans h)
              refine ⟨[⟨some span, .unresolved r.status r.url.render reason.message⟩], ?_, ?_⟩
              · rw [(run_of_stop hstop).1]
                exact .warned (stranded_singleton_iff.mpr ⟨hr, hland⟩)
              · rw [reports_of_stop hstop, run_of_stranded hr hland, hr, exchanged_eq_report]
                rfl
          | onward next =>
              have hhop : Hop client before f next := ⟨r, hr, hland⟩
              obtain ⟨ending, hending, hevents⟩ := ih (before ++ [f.request]) next
              refine ⟨ending, ?_, ?_⟩
              · rw [(run_of_hop hhop).1]
                cases hending with
                | warned h => exact .warned ((stranded_of_hop_iff hhop).mpr h)
                | quiet h =>
                    exact .quiet fun r reason hs => h r reason ((stranded_of_hop_iff hhop).mp hs)
              · rw [reports_of_hop hhop, run_of_onward hr hland, hr]
                dsimp only
                rw [hevents, exchanged_eq_report]
                simp [Span.report]

end

end Flight

/-! ## The log of a call -/

/-- The log of a call is the report of each request that it sends, with the answer to that request
and the URL of the next one, if the call sends one when it is given one more step.  Behind the
reports stands a warning if and only if the last response redirects, the policy of the call allows
it and the place it names is missing, not printable or does not join.  The reports hold no warning,
and a call that sends nothing has an empty log.  Every response is logged with its status and each
of its headers. -/
theorem Session.request_events (s : Session) (client : Client) (steps : Nat) (method url : String)
    (o : RequestOptions) :
    let call (steps : Nat) := s.request client steps method url o
    let sent := (call steps).sent
    let next (k : Nat) := ((call (steps + 1)).sent[k + 1]?).map Request.url
    let reports := sent.mapIdx fun k q => s.span.report q (client (sent.take (k + 1))) (next k)
    (∃ ending, (call steps).events = reports.flatten ++ ending ∧
      Flight.Ending s.span (o.redirect.getD s.redirect) client [] sent ending) ∧
    (∀ l ∈ reports.flatten, l.event.level ≠ .warn) ∧
    ∀ k < sent.length, ∀ r, client (sent.take (k + 1)) = .ok r →
      ∃ text, ⟨some s.span, .response r.status text⟩ ∈ reports.flatten ∧
        ∀ line ∈ r.headers.toList, HeaderMap.StandsIn line.1 line.2 text := by
  intro call sent next reports
  refine ⟨?_, fun l hl => ?_, fun k hk r hr => ?_⟩
  · cases hprepare : s.prepare method url o with
    | error e =>
        have hcall (steps : Nat) : call steps = .done (.error e) := request_of_error hprepare
        have hsent : sent = [] := congrArg Trace.sent (hcall steps)
        refine ⟨[], ?_, ?_⟩
        · simp [reports, hsent, hcall, Trace.done]
        · rw [hsent]
          exact .quiet fun _ _ => Flight.not_stranded_nil
    | ok f =>
        have hcall (steps : Nat) : call steps = f.run client s.span steps [] :=
          request_of_ok hprepare
        obtain ⟨_, _, _, _, _, _, rfl⟩ := prepare_eq_ok_iff.mp hprepare
        obtain ⟨ending, hending, hevents⟩ := Flight.run_events client s.span steps [] _
        rw [← hcall] at hending hevents
        refine ⟨ending, ?_, hending⟩
        rw [hevents, Flight.reports]
        simp only [Flight.following, ← hcall]
        rfl
  · obtain ⟨report, hreport, hl⟩ := List.mem_flatten.mp hl
    obtain ⟨k, hk, rfl⟩ := List.mem_mapIdx.mp hreport
    exact Span.level_report l hl
  · obtain ⟨text, htext, hheaders⟩ := r.exists_headers_reported
    refine ⟨text, List.mem_flatten.mpr ⟨_, List.mem_mapIdx.mpr ⟨k, hk, rfl⟩, ?_⟩, hheaders⟩
    rw [hr]
    exact List.mem_append_right _ (List.mem_append_left _ (List.mem_map_of_mem htext))

end VersionedApi
