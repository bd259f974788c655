import VersionedApi.Proofs.Session.FirstRequest

/-!
# Calls that are refused

A call is refused by the first of its three preparations that fails: the user agent that it puts in
is no header value, the authorizer does not grant the headers, or the text is no URL.  `Refuses`
lists these with the error of each.  A refused call sends nothing, logs nothing and ends with this
error, and a call that is not refused sends a request (`request_sent_iff`).

The user agent of a session is no reason to refuse a call that does not put it in
(`request_other_agent`): only the span of the events tells which one the session has.
-/

namespace VersionedApi

/-- The span of a run is seen in its events only. -/
theorem Flight.run_other_span (client : Client) (span span' : Span) (steps : Nat)
    (before : List Request) (f : Flight) :
    (run client span steps before f).sent = (run client span' steps before f).sent ∧
      (run client span steps before f).outcome = (run client span' steps before f).outcome := by
  refine ⟨by rw [sent_eq_map_course, sent_eq_map_course], ?_⟩
  induction steps generalizing before f with
  | zero => rfl
  | succ steps ih =>
      by_cases h : ∃ next, Hop client before f next
      · obtain ⟨next, hnext⟩ := h
        rw [(run_of_hop hnext).2, (run_of_hop hnext).2, ih]
      · have hstop := not_exists.mp h
        rw [(run_of_stop hstop).2, (run_of_stop hstop).2]

namespace Session

/-- The errors with which a call is refused. -/
inductive Refuses (s : Session) (url : String) (o : RequestOptions) : ApiError → Prop where
  /-- The user agent that the call puts in is no header value. -/
  | agent {agent : String} {fault : HeaderFault} (h : s.Introduces o agent)
      (hfault : HeaderValue.ofText? agent = .error fault) :
      Refuses s url o (.invalidHeader fault.message)
  /-- The authorizer does not grant the headers. -/
  | authorizer {headers : HeaderMap} {e : ApiError} (h : s.Composes o headers)
      (he : s.authorize headers = .error e) : Refuses s url o e
  /-- The text is no URL. -/
  | url {headers granted : HeaderMap} {fault : UrlFault} (h : s.Composes o headers)
      (hgranted : s.authorize headers = .ok granted) (hfault : Url.parse url = .error fault) :
      Refuses s url o (.invalidUrl fault)

variable {s : Session} {client : Client} {steps : Nat} {method url : String} {o : RequestOptions}
  {e : ApiError}

theorem refuses_iff : s.Refuses url o e ↔ s.prepare method url o = .error e := by
  rw [prepare_eq_error_iff, named_eq_error_iff]
  simp only [named_eq_ok_iff]
  constructor
  · intro h
    cases h with
    | agent h hfault => exact Or.inl ⟨_, _, h, hfault, rfl⟩
    | authorizer h he => exact Or.inr ⟨_, h, Or.inl he⟩
    | url h hgranted hfault => exact Or.inr ⟨_, h, Or.inr ⟨_, hgranted, _, hfault, rfl⟩⟩
  · rintro (⟨_, _, h, hfault, rfl⟩ | ⟨_, h, he | ⟨_, hgranted, _, hfault, rfl⟩⟩)
    · exact .agent h hfault
    · exact .authorizer h he
    · exact .url h hgranted hfault

/-- There are headers to put to the authorizer unless the user agent is no header value. -/
theorem exists_composes_iff :
    (∃ headers, s.Composes o headers) ↔
      ∀ agent, s.Introduces o agent → ∃ value, HeaderValue.ofText? agent = .ok value := by
  constructor
  · rintro ⟨headers, hcomposes⟩ agent hagent
    cases hcomposes with
    | introduced h hvalue =>
        have heq := (agent?_eq_some_iff.mpr h).symm.trans (agent?_eq_some_iff.mpr hagent)
        cases heq
        exact ⟨_, hvalue⟩
    | given h => exact absurd hagent (h agent)
  · intro hvalid
    by_cases h : ∃ agent, s.Introduces o agent
    · obtain ⟨agent, hagent⟩ := h
      obtain ⟨value, hvalue⟩ := hvalid agent hagent
      exact ⟨_, .introduced hagent hvalue⟩
    · exact ⟨_, .given (not_exists.mp h)⟩

theorem sent_ne_nil_of_prepare {f : Flight} (h : s.prepare method url o = .ok f) :
    (s.request client (steps + 1) method url o).sent ≠ [] := by
  intro hnil
  have hhead : (s.request client (steps + 1) method url o).sent.head? = some f.request :=
    head_of_prepare h
  rw [hnil] at hhead
  cases hhead

theorem agent?_other {agent : Option String}
    (h : o.userAgent ≠ none ∨ .userAgent ∈ o.headers.names) :
    agent? { s with userAgent := agent } o = s.agent? o := by
  rw [agent?, agent?]
  split
  next => rfl
  next hnone =>
    have hgiven := (contains_typed_userAgent o).mpr (h.resolve_left (absurd hnone))
    rw [if_pos hgiven, if_pos hgiven]

/-- A session with another user agent sends the same and ends in the same way, in a call that does
not put it in. -/
theorem request_other_agent (agent : Option String)
    (h : o.userAgent ≠ none ∨ .userAgent ∈ o.headers.names) :
    let other : Session := { s with userAgent := agent }
    (other.request client steps method url o).sent = (s.request client steps method url o).sent ∧
      (other.request client steps method url o).outcome =
        (s.request client steps method url o).outcome := by
  intro other
  have hnamed : other.named o = s.named o := by
    rw [Session.named, Session.named, agent?_other h]
  have hprepare : other.prepare method url o = s.prepare method url o := by
    rw [prepare, hnamed]
    rfl
  cases hs : s.prepare method url o with
  | error e =>
      rw [request_of_error hs, request_of_error (hprepare.trans hs)]
      exact ⟨rfl, rfl⟩
  | ok f =>
      rw [request_of_ok hs, request_of_ok (hprepare.trans hs)]
      exact Flight.run_other_span _ _ _ _ _ _

/-- A call sends a request if and only if the user agent that it puts in is a header value, the
authorizer grants the headers and the text is a URL.  Otherwise it ends with the error of the first
that fails, and leaves no event.  The user agent of the session has no part in this unless the call
puts it in. -/
theorem request_sent_iff (s : Session) (client : Client) (steps : Nat) (method url : String)
    (o : RequestOptions) :
    let call := s.request client (steps + 1) method url o
    (call.sent ≠ [] ↔
      (∀ agent, s.Introduces o agent → ∃ value, HeaderValue.ofText? agent = .ok value) ∧
        (∃ headers granted, s.Composes o headers ∧ s.authorize headers = .ok granted) ∧
        ∃ target, Url.parse url = .ok target) ∧
      (call.sent = [] → ∃ e, s.Refuses url o e) ∧
      (∀ e, s.Refuses url o e →
        call.sent = [] ∧ call.events = [] ∧ call.outcome = some (.error e)) ∧
      ((o.userAgent ≠ none ∨ .userAgent ∈ o.headers.names) → ∀ agent,
        let other := { s with userAgent := agent }.request client (steps + 1) method url o
        other.sent = call.sent ∧ other.outcome = call.outcome) := by
  intro call
  have hrefused : ∀ e, s.Refuses url o e → call = .done (.error e) := by
    intro e he
    have hprepare : s.prepare method url o = .error e := refuses_iff.mp he
    exact request_of_error hprepare
  have hsent : call.sent = [] → ∃ e, s.Refuses url o e := by
    intro hnil
    cases hprepare : s.prepare method url o with
    | error e => exact ⟨e, refuses_iff.mpr hprepare⟩
    | ok f => exact absurd hnil (sent_ne_nil_of_prepare hprepare)
  refine ⟨?_, hsent, fun e he => ?_, fun hunused agent => request_other_agent agent hunused⟩
  · constructor
    · intro hcall
      cases hprepare : s.prepare method url o with
      | error e =>
          refine absurd ?_ hcall
          rw [hrefused e (refuses_iff.mpr hprepare)]
          rfl
      | ok f =>
          obtain ⟨named, headers, target, hnamed, hheaders, htarget, _⟩ :=
            prepare_eq_ok_iff.mp hprepare
          have hcomposes := named_eq_ok_iff.mp hnamed
          exact ⟨exists_composes_iff.mp ⟨named, hcomposes⟩, ⟨named, headers, hcomposes, hheaders⟩,
            target, htarget⟩
    · rintro ⟨_, ⟨named, headers, hcomposes, hheaders⟩, target, htarget⟩
      exact sent_ne_nil_of_prepare (prepare_eq_ok_iff.mpr
        ⟨named, headers, target, named_eq_ok_iff.mpr hcomposes, hheaders, htarget, rfl⟩)
  · rw [hrefused e he]
    exact ⟨rfl, rfl, rfl⟩

end Session

end VersionedApi
