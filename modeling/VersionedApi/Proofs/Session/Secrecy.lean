import VersionedApi.Proofs.Session.Chain
import VersionedApi.Proofs.Session.Preparation
import VersionedApi.Proofs.Session.Redaction

/-!
# The log keeps secrets

Two runs of a request that differ in the octets of sensitive values and in a token log the same
events and fail with the same error (`request_log_eq`).  Two flights are alike if they differ in
no more than that.  Preparing a request and receiving a reply keep flights alike, and what is
logged of them is the same (`Flight.run_alike`).
-/

namespace VersionedApi

/-- Two credentials of which either both give a token that is a value or both one that is none, if
they give any. -/
inductive Credentials.Alike : Credentials → Credentials → Prop where
  /-- No credentials. -/
  | none : Alike .none .none
  /-- Tokens that are values. -/
  | valid {t₁ t₂ : String} {v₁ v₂ : HeaderValue} (h₁ : HeaderValue.ofText? t₁ = .ok v₁)
      (h₂ : HeaderValue.ofText? t₂ = .ok v₂) : Alike (.token t₁) (.token t₂)
  /-- Tokens that are no values. -/
  | invalid {t₁ t₂ : String} {fault₁ fault₂ : HeaderFault}
      (h₁ : HeaderValue.ofText? t₁ = .error fault₁)
      (h₂ : HeaderValue.ofText? t₂ = .error fault₂) : Alike (.token t₁) (.token t₂)

/-- Two clients that answer alike what differs in the octets of sensitive values only. -/
def Client.Alike (client₁ client₂ : Client) : Prop :=
  ∀ sent₁ sent₂, sent₁.map Request.redacted = sent₂.map Request.redacted →
    Outcome.Alike Response.Alike (client₁ sent₁) (client₂ sent₂)

/-- Clients that give alike outcomes in order, whatever they are asked. -/
theorem Client.playing_alike {replies₁ replies₂ : Nat → Except ApiError Response}
    (h : ∀ k, Outcome.Alike Response.Alike (replies₁ k) (replies₂ k)) :
    (Client.playing replies₁).Alike (.playing replies₂) := by
  intro sent₁ sent₂ hsent
  have hlength : sent₁.length = sent₂.length := by
    rw [← List.length_map (f := Request.redacted), hsent, List.length_map]
  rw [Client.playing, Client.playing, hlength]
  exact h _

/-- Two sessions whose authorizers give alike headers to alike headers. -/
structure Session.Alike (s₁ s₂ : Session) : Prop where
  /-- The authorizers. -/
  authorize : ∀ h₁ h₂ : HeaderMap, h₁.redacted = h₂.redacted →
    Outcome.Alike (fun h₁ h₂ => h₁.redacted = h₂.redacted) (s₁.authorize h₁) (s₂.authorize h₂)
  /-- The user agent. -/
  userAgent : s₁.userAgent = s₂.userAgent
  /-- The redirect policy. -/
  redirect : s₁.redirect = s₂.redirect
  /-- The verification. -/
  verify : s₁.verify = s₂.verify

/-- Two requests on their way that differ in the octets of sensitive values only. -/
structure Flight.Alike (f₁ f₂ : Flight) : Prop where
  /-- What is to be sent next. -/
  request : f₁.request.redacted = f₂.request.redacted
  /-- What remains of the redirect policy. -/
  budget : f₁.budget = f₂.budget

/-- Two runs that log the same events and come to alike outcomes. -/
structure Trace.Alike (t₁ t₂ : Trace Response) : Prop where
  /-- The requests without the octets of sensitive values. -/
  sent : t₁.sent.map Request.redacted = t₂.sent.map Request.redacted
  /-- The events. -/
  events : t₁.events = t₂.events
  /-- The outcome. -/
  outcome : Option.Rel (Outcome.Alike Response.Alike) t₁.outcome t₂.outcome

/-! ## Preparation -/

/-- A token is marked sensitive in place of whatever the caller gave for one, marked or not. -/
theorem Credentials.Alike.authorize {k₁ k₂ : Credentials} (hk : k₁.Alike k₂) (h₁ h₂ : HeaderMap)
    (h : h₁.redacted = h₂.redacted) :
    Outcome.Alike (fun h₁ h₂ => h₁.redacted = h₂.redacted) (k₁.authorize h₁) (k₂.authorize h₂) := by
  cases hk with
  | none => exact .ok h
  | valid hv₁ hv₂ =>
      simp only [Credentials.authorize, hv₁, hv₂]
      refine .ok ?_
      rw [HeaderMap.redacted_insert, HeaderMap.redacted_insert, h]
      rfl
  | invalid hv₁ hv₂ =>
      simp only [Credentials.authorize, hv₁, hv₂]
      rw [HeaderValue.ofText?_eq_error hv₁, HeaderValue.ofText?_eq_error hv₂]
      exact .error _

theorem Session.ofConfig_alike (c : SessionConfig) {k₁ k₂ : Credentials} (hk : k₁.Alike k₂) :
    (Session.ofConfig c k₁.authorize).Alike (Session.ofConfig c k₂.authorize) :=
  ⟨hk.authorize, rfl, rfl, rfl⟩

namespace Session

theorem typed_redacted (o : RequestOptions) : typed o.redacted = (typed o).redacted := by
  rw [typed, typed]
  cases h : o.json with
  | none =>
      simp only [RequestOptions.redacted, h]
  | some value =>
      simp only [RequestOptions.redacted, h]
      exact (HeaderMap.redacted_insert o.headers .contentType jsonType).symm

theorem agent?_redacted (s : Session) (o : RequestOptions) : s.agent? o.redacted = s.agent? o := by
  rw [agent?, agent?, typed_redacted, HeaderMap.contains_redacted]
  rfl

section

variable {s₁ s₂ : Session} {o₁ o₂ : RequestOptions}

theorem Alike.agent?_eq (hs : s₁.Alike s₂) (ho : o₁.redacted = o₂.redacted) :
    s₁.agent? o₁ = s₂.agent? o₂ := by
  rw [← agent?_redacted, ho, agent?_redacted, agent?, agent?, hs.userAgent]

theorem Alike.named (hs : s₁.Alike s₂) (ho : o₁.redacted = o₂.redacted) :
    Outcome.Alike (fun h₁ h₂ => h₁.redacted = h₂.redacted) (s₁.named o₁) (s₂.named o₂) := by
  have htyped : (typed o₁).redacted = (typed o₂).redacted := by
    rw [← typed_redacted, ho, typed_redacted]
  rw [Session.named, Session.named, hs.agent?_eq ho]
  cases s₂.agent? o₂ with
  | none => exact .ok htyped
  | some agent =>
      dsimp only
      cases HeaderValue.ofText? agent with
      | error fault => exact .error _
      | ok value =>
          refine .ok ?_
          rw [HeaderMap.redacted_insert, HeaderMap.redacted_insert, htyped]

theorem Alike.departure (hs : s₁.Alike s₂) (ho : o₁.redacted = o₂.redacted) {h₁ h₂ : HeaderMap}
    (h : h₁.redacted = h₂.redacted) (method : String) (target : Url) :
    (s₁.departure method o₁ h₁ target).Alike (s₂.departure method o₂ h₂ target) := by
  have hrequest (s : Session) (o : RequestOptions) (h : HeaderMap) :
      (s.departure method o h target).request.redacted =
        (s.departure method o.redacted h.redacted target).request := rfl
  have hpolicy : o₁.redirect = o₂.redirect := congrArg (fun o => o.redirect) ho
  constructor
  · rw [hrequest, hrequest, ho, h, Session.departure, Session.departure, hs.verify]
  · rw [Session.departure, Session.departure, hpolicy, hs.redirect]

theorem Alike.prepare (hs : s₁.Alike s₂) (ho : o₁.redacted = o₂.redacted) (method url : String) :
    Outcome.Alike Flight.Alike (s₁.prepare method url o₁) (s₂.prepare method url o₂) := by
  refine (hs.named ho).bind fun n₁ n₂ hnamed => ?_
  refine (hs.authorize n₁ n₂ hnamed).bind fun h₁ h₂ hheaders => ?_
  cases Url.parse url with
  | error fault => exact .error _
  | ok target => exact .ok (hs.departure ho hheaders method target)

end

end Session

/-! ## Exchanges -/

namespace Flight

/-- What two replies make of two flights. -/
inductive Landing.Alike : Landing → Landing → Prop where
  /-- Both replies are the answer. -/
  | final : Alike .final .final
  /-- Both replies redirect and cannot be followed, for one reason. -/
  | stranded (reason : Unresolved) : Alike (.stranded reason) (.stranded reason)
  /-- Both replies redirect. -/
  | onward {next₁ next₂ : Flight} (h : next₁.Alike next₂) : Alike (.onward next₁) (.onward next₂)

variable {f₁ f₂ : Flight} {r₁ r₂ : Response}

theorem Alike.url_eq (hf : f₁.Alike f₂) : f₁.request.url = f₂.request.url :=
  congrArg (fun q => q.url) hf.request

theorem Alike.ofRequest_eq (hf : f₁.Alike f₂) :
    Event.ofRequest f₁.request = Event.ofRequest f₂.request := by
  rw [← Event.ofRequest_redacted, hf.request, Event.ofRequest_redacted]

theorem Alike.exchanged_eq (hf : f₁.Alike f₂) (hr : r₁.Alike r₂) (span : Span) :
    exchanged span f₁ r₁ = exchanged span f₂ r₂ := by
  rw [exchanged, exchanged, hf.ofRequest_eq, hr.ofResponse_eq]

theorem Alike.deliver (hr : r₁.Alike r₂) (f₁ f₂ : Flight) : (f₁.deliver r₁).Alike (f₂.deliver r₂) :=
  ⟨hr.status, hr.headers, hr.url, hr.body, hr.location, hr.encoding⟩

theorem Alike.receive (hf : f₁.Alike f₂) (hr : r₁.Alike r₂) :
    Landing.Alike (f₁.receive r₁) (f₂.receive r₂) := by
  have hredirect : r₁.isRedirect = r₂.isRedirect := by
    rw [Response.isRedirect, Response.isRedirect, hr.status]
  have htarget : target f₁.request.url r₁ = target f₂.request.url r₂ := by
    rw [target, target, hr.location, hf.url_eq]
  rw [Flight.receive, Flight.receive, hredirect, hf.budget, htarget]
  cases r₂.isRedirect with
  | false => exact .final
  | true =>
      cases f₂.budget.takeHop with
      | none => exact .final
      | some budget =>
          cases target f₂.request.url r₂ with
          | error reason => exact .stranded reason
          | ok url =>
              refine .onward ⟨?_, rfl⟩
              exact congrArg (fun q : Request => { q with url }) hf.request

/-- Flights that are alike have runs that are alike. -/
theorem run_alike {client₁ client₂ : Client} (hclient : client₁.Alike client₂) (span : Span) :
    ∀ (steps : Nat) {before₁ before₂ : List Request} {f₁ f₂ : Flight},
      before₁.map Request.redacted = before₂.map Request.redacted → f₁.Alike f₂ →
      (run client₁ span steps before₁ f₁).Alike (run client₂ span steps before₂ f₂)
  | 0, _, _, _, _, _, _ => ⟨rfl, rfl, .none⟩
  | steps + 1, before₁, before₂, f₁, f₂, hbefore, hf => by
      have hasked : (before₁ ++ [f₁.request]).map Request.redacted =
          (before₂ ++ [f₂.request]).map Request.redacted := by
        rw [List.map_append, List.map_append, hbefore, List.map_singleton, List.map_singleton,
          hf.request]
      have hsent : [f₁.request].map Request.redacted = [f₂.request].map Request.redacted := by
        rw [List.map_singleton, List.map_singleton, hf.request]
      have hanswer := hclient _ _ hasked
      generalize h₁ : client₁ (before₁ ++ [f₁.request]) = x₁ at hanswer
      generalize h₂ : client₂ (before₂ ++ [f₂.request]) = x₂ at hanswer
      cases hanswer with
      | error e =>
          rw [run_of_error h₁, run_of_error h₂]
          exact ⟨hsent, congrArg span.log hf.ofRequest_eq, .some (.error e)⟩
      | @ok r₁ r₂ hr =>
          have hland := hf.receive hr
          have hexchanged := hf.exchanged_eq hr span
          generalize l₁ : f₁.receive r₁ = landing₁ at hland
          generalize l₂ : f₂.receive r₂ = landing₂ at hland
          cases hland with
          | final =>
              rw [run_of_final h₁ l₁, run_of_final h₂ l₂]
              exact ⟨hsent, hexchanged, .some (.ok (Alike.deliver hr f₁ f₂))⟩
          | stranded reason =>
              rw [run_of_stranded h₁ l₁, run_of_stranded h₂ l₂]
              refine ⟨hsent, ?_, .some (.ok (Alike.deliver hr f₁ f₂))⟩
              rw [hexchanged, hr.status, hr.url]
          | onward hnext =>
              rw [run_of_onward h₁ l₁, run_of_onward h₂ l₂]
              obtain ⟨hrest, hevents, houtcome⟩ := run_alike hclient span steps hasked hnext
              refine ⟨?_, ?_, houtcome⟩
              · rw [List.map_cons, List.map_cons, hf.request, hrest]
              · dsimp only
                rw [hexchanged, hr.status, hnext.url_eq, hevents]

end Flight

/-! ## The log of a call -/

namespace Session

theorem Alike.request {s₁ s₂ : Session} (hs : s₁.Alike s₂) {client₁ client₂ : Client}
    (hclient : client₁.Alike client₂) {o₁ o₂ : RequestOptions} (ho : o₁.redacted = o₂.redacted)
    (steps : Nat) (method url : String) :
    (s₁.request client₁ steps method url o₁).Alike (s₂.request client₂ steps method url o₂) := by
  have hprepare := hs.prepare ho method url
  generalize p₁ : s₁.prepare method url o₁ = x₁ at hprepare
  generalize p₂ : s₂.prepare method url o₂ = x₂ at hprepare
  cases hprepare with
  | error e =>
      rw [request_of_error p₁, request_of_error p₂]
      exact ⟨rfl, rfl, .some (.error e)⟩
  | ok hf =>
      rw [request_of_ok p₁, request_of_ok p₂, span, span, hs.userAgent]
      exact Flight.run_alike hclient _ steps rfl hf

/-- No request is prepared with a token that is no value. -/
theorem prepare_of_invalid_token (c : SessionConfig) {text : String} {fault : HeaderFault}
    (h : HeaderValue.ofText? text = .error fault) (method url : String) (o : RequestOptions) :
    ∃ e, (ofConfig c (Credentials.token text).authorize).prepare method url o = .error e := by
  generalize hs : ofConfig c (Credentials.token text).authorize = s
  cases hnamed : s.named o with
  | error e => exact ⟨e, prepare_eq_error_iff.mpr (Or.inl hnamed)⟩
  | ok headers =>
      refine ⟨.auth ("Token is not a valid header value: " ++ fault.message),
        prepare_eq_error_iff.mpr (Or.inr ⟨headers, hnamed, Or.inl ?_⟩)⟩
      rw [← hs, ofConfig]
      simp only [Credentials.authorize, h]

/-- A call logs the same whatever octets the sensitive values have that its caller gives and the
replies bring, and whichever token authorizes it.  It also has no outcome or the same error in
both cases, and with tokens that are no values there is such an error. -/
theorem request_log_eq (c : SessionConfig) (method url : String) (steps : Nat)
    {client₁ client₂ : Client} (hclient : client₁.Alike client₂) {k₁ k₂ : Credentials}
    (hk : k₁.Alike k₂) {o₁ o₂ : RequestOptions} (ho : o₁.redacted = o₂.redacted) :
    let t₁ := (ofConfig c k₁.authorize).request client₁ steps method url o₁
    let t₂ := (ofConfig c k₂.authorize).request client₂ steps method url o₂
    t₁.events = t₂.events ∧ (t₁.outcome = none ↔ t₂.outcome = none) ∧
      (∀ e, t₁.outcome = some (.error e) ↔ t₂.outcome = some (.error e)) ∧
      ∀ text fault, k₁ = .token text → HeaderValue.ofText? text = .error fault →
        ∃ e, t₁.outcome = some (.error e) ∧ t₂.outcome = some (.error e) := by
  intro t₁ t₂
  have ht : t₁.Alike t₂ := (ofConfig_alike c hk).request hclient ho steps method url
  have herror : ∀ e, t₁.outcome = some (.error e) ↔ t₂.outcome = some (.error e) := by
    intro e
    have houtcome := ht.outcome
    generalize t₁.outcome = a₁ at houtcome ⊢
    generalize t₂.outcome = a₂ at houtcome ⊢
    cases houtcome with
    | none => exact Iff.rfl
    | some h =>
        cases h with
        | ok _ => exact ⟨fun h => (nomatch h), fun h => (nomatch h)⟩
        | error e => exact Iff.rfl
  refine ⟨ht.events, ?_, herror, fun text fault htoken hinvalid => ?_⟩
  · have houtcome := ht.outcome
    generalize t₁.outcome = a₁ at houtcome ⊢
    generalize t₂.outcome = a₂ at houtcome ⊢
    cases houtcome with
    | none => exact Iff.rfl
    | some _ => exact ⟨fun h => (nomatch h), fun h => (nomatch h)⟩
  · subst htoken
    obtain ⟨e, he⟩ := prepare_of_invalid_token c hinvalid method url o₁
    have hdone : t₁.outcome = some (.error e) := congrArg Trace.outcome (request_of_error he)
    exact ⟨e, hdone, (herror e).mp hdone⟩

/-- A token that the caller gave in the open is replaced, and a redirect followed. -/
theorem request_log_eq_replaced :
    let options (key : String) : RequestOptions :=
      { headers := .ofList [(.authToken, { bytes := Utf8.encode "open" }),
          (⟨"x-key"⟩, { bytes := Utf8.encode key, sensitive := true })] }
    let url : Url := ⟨"http", some { host := some (.name "a") }, .rooted [""], none, none⟩
    let replies : Nat → Except ApiError Response
      | 0 => .ok ⟨302, .ofList [(.location, { bytes := Utf8.encode "/b" })], url, .buffered [], []⟩
      | _ => .ok ⟨200, .empty, url, .buffered [], []⟩
    let call (token key : String) : Trace Response :=
      (ofConfig {} (Credentials.token token).authorize).request (.playing replies) 3 "GET"
        "http://a/" (options key)
    (Credentials.token "first").Alike (.token "second") ∧
      (options "k").redacted = (options "key").redacted ∧
      (call "first" "k").sent ≠ (call "second" "key").sent ∧
      (call "first" "k").events.length = 9 ∧
      (call "first" "k").events = (call "second" "key").events := by
  intro options url replies call
  have hclient : (Client.playing replies).Alike (.playing replies) :=
    Client.playing_alike fun k => by
      cases replies k with
      | error e => exact .error e
      | ok r => exact .ok (.refl r)
  have htoken : (Credentials.token "first").Alike (.token "second") :=
    .valid rfl rfl
  have hoptions : (options "k").redacted = (options "key").redacted := rfl
  refine ⟨htoken, hoptions, by decide +kernel, by decide +kernel, ?_⟩
  exact (request_log_eq {} "GET" "http://a/" 3 hclient htoken hoptions).1

end Session

end VersionedApi
