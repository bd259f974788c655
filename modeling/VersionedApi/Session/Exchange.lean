import VersionedApi.Session.Event
import VersionedApi.Url.Parser

/-!
# Exchanges

A request is sent to a *client*, which answers every request by a response or an error and may
take all requests so far into account.  A redirect is followed by sending the same request to the
place that the reply names, as long as the policy allows it.

A *flight* is a request on its way: what is to be sent next, what remains of the policy, and the
redirects so far.  `Flight.receive` is one step, what a reply makes of a flight, and `Flight.run`
takes a number of steps.  A client may redirect for ever, so a run says what was sent and logged
and what came of it, if it came to an end within its steps.
-/

namespace VersionedApi

/-- What answers requests: a function of the requests so far, the one to answer last. -/
abbrev Client := List Request → Except ApiError Response

/-- What a run sent, what it logged and what came of it. -/
structure Trace (α : Type) where
  /-- The requests, in order. -/
  sent : List Request
  /-- The events, in order. -/
  events : List Logged
  /-- The outcome, if the run came to an end. -/
  outcome : Option (Except ApiError α)

namespace Trace

/-- A run that ends at once and without sending. -/
def done {α : Type} (outcome : Except ApiError α) : Trace α := ⟨[], [], some outcome⟩

/-- A run with events in front. -/
def after {α : Type} (events : List Logged) (t : Trace α) : Trace α :=
  { t with events := events ++ t.events }

/-- A run whose outcome is taken to another one, which may log events of its own. -/
def conclude {α β : Type} (t : Trace α)
    (f : Except ApiError α → Except ApiError β × List Logged) : Trace β :=
  match t.outcome with
  | none => ⟨t.sent, t.events, none⟩
  | some outcome =>
      let (result, events) := f outcome
      ⟨t.sent, t.events ++ events, some result⟩

section

variable {α β : Type} (t : Trace α) (f : Except ApiError α → Except ApiError β × List Logged)

theorem sent_conclude : (t.conclude f).sent = t.sent := by
  rw [conclude]
  cases t.outcome <;> rfl

theorem outcome_conclude : (t.conclude f).outcome = t.outcome.map fun o => (f o).1 := by
  rw [conclude]
  cases t.outcome <;> rfl

end

end Trace

/-- A request on its way. -/
structure Flight where
  /-- What is to be sent next. -/
  request : Request
  /-- What remains of the redirect policy. -/
  budget : RedirectPolicy
  /-- The redirects so far, oldest first. -/
  history : List Response

namespace Flight

/-- Why a redirect cannot be followed. -/
inductive Unresolved where
  /-- No printable location is given. -/
  | noLocation
  /-- The location is no URL. -/
  | badLocation (fault : UrlFault)
deriving DecidableEq, Repr

/-- The wording of the reason. -/
def Unresolved.message : Unresolved → String
  | .noLocation => "new location was not provided"
  | .badLocation fault => "invalid location: " ++ fault.message

/-- The place to which a reply redirects, seen from where the request was sent. -/
def target (url : Url) (r : Response) : Except Unresolved Url :=
  match r.location? with
  | none => .error .noLocation
  | some location => (url.join location).mapError .badLocation

/-- What a reply makes of a flight. -/
inductive Landing where
  /-- The reply is the answer. -/
  | final
  /-- The reply redirects and cannot be followed. -/
  | stranded (reason : Unresolved)
  /-- The reply redirects. -/
  | onward (next : Flight)

/-- What a reply makes of a flight. -/
def receive (f : Flight) (r : Response) : Landing :=
  if !r.isRedirect then .final
  else
    match f.budget.takeHop with
    | none => .final
    | some budget =>
        match target f.request.url r with
        | .error reason => .stranded reason
        | .ok url =>
            .onward { request := { f.request with url }, budget, history := f.history ++ [r] }

/-- The response with the redirects of a flight. -/
def deliver (f : Flight) (r : Response) : Response := { r with history := f.history }

/-- The flight's run of at most a number of requests, after those that were sent `before`. -/
def run (client : Client) (span : Span) : Nat → List Request → Flight → Trace Response
  | 0, _, _ => ⟨[], [], none⟩
  | steps + 1, before, f =>
      let inSpan (event : Event) : Logged := ⟨some span, event⟩
      let requested := (Event.ofRequest f.request).map inSpan
      match client (before ++ [f.request]) with
      | .error e => ⟨[f.request], requested, some (.error e)⟩
      | .ok r =>
          let answered := requested ++ (Event.ofResponse r).map inSpan
          match f.receive r with
          | .final => ⟨[f.request], answered, some (.ok (f.deliver r))⟩
          | .stranded reason =>
              let warning := Event.unresolved r.status r.url.render reason.message
              ⟨[f.request], answered ++ [inSpan warning], some (.ok (f.deliver r))⟩
          | .onward next =>
              let rest := run client span steps (before ++ [f.request]) next
              let followed := ⟨none, .following r.status next.request.url.render⟩
              ⟨f.request :: rest.sent, answered ++ followed :: rest.events, rest.outcome⟩

end Flight

end VersionedApi
