import VersionedApi.Proofs.Session.Chain
import VersionedApi.Proofs.Session.Course

/-!
# Events outside the span

A call reports what it does in the span of its session, with one exception: the event that a
redirect is followed is emitted in no span at all.  So the events outside the span are in step with
the requests, one for each request after the first (`Flight.outside_run`), and every event stands in
the span exactly if the call follows no redirect.

What a request and its response are reported by stands in the span (`outside_exchanged`), and so
does a warning.  One step of a run therefore adds at most one event outside.
-/

namespace VersionedApi

/-- The events that do not stand in a span, in order. -/
def Span.outside (span : Span) (events : List Logged) : List Logged :=
  events.filter fun l => l.span ≠ some span

namespace Span

variable {span : Span}

theorem outside_append (events more : List Logged) :
    span.outside (events ++ more) = span.outside events ++ span.outside more :=
  List.filter_append ..

theorem outside_eq_nil_iff {events : List Logged} :
    span.outside events = [] ↔ ∀ l ∈ events, l.span = some span := by
  simp [outside]

theorem outside_log (span : Span) (events : List Event) : span.outside (span.log events) = [] := by
  refine outside_eq_nil_iff.mpr fun l hl => ?_
  obtain ⟨event, _, rfl⟩ := List.mem_map.mp hl
  rfl

theorem outside_following (span : Span) (status : Nat) (target : String) (rest : List Logged) :
    span.outside (⟨none, .following status target⟩ :: rest) =
      ⟨none, .following status target⟩ :: span.outside rest :=
  List.filter_cons_of_pos (by simp)

end Span

namespace Flight

variable {client : Client} {span : Span} {steps : Nat} {before : List Request} {f next : Flight}
  {r : Response}

theorem outside_exchanged (span : Span) (f : Flight) (r : Response) :
    span.outside (exchanged span f r) = [] := by
  rw [exchanged, Span.outside_append, Span.outside_log, Span.outside_log, List.append_nil]

/-- A followed redirect puts one event in front of those outside. -/
theorem outside_run_of_onward (hr : client (before ++ [f.request]) = .ok r)
    (hland : f.receive r = .onward next) :
    span.outside (run client span (steps + 1) before f).events =
      ⟨none, .following r.status next.request.url.render⟩ ::
        span.outside (run client span steps (before ++ [f.request]) next).events := by
  rw [run_of_onward hr hland]
  dsimp only
  rw [Span.outside_append, outside_exchanged, Span.outside_following, List.nil_append]

/-- A run that follows no redirect has no event outside. -/
theorem outside_run_of_stop (h : ∀ next, ¬ Hop client before f next) :
    span.outside (run client span (steps + 1) before f).events = [] := by
  cases hr : client (before ++ [f.request]) with
  | error e =>
      rw [run_of_error hr]
      exact Span.outside_log span _
  | ok r =>
      cases hland : f.receive r with
      | final =>
          rw [run_of_final hr hland]
          exact outside_exchanged span f r
      | stranded reason =>
          rw [run_of_stranded hr hland]
          dsimp only
          rw [Span.outside_append, outside_exchanged, Span.outside_log, List.append_nil]
      | onward next => exact absurd ⟨r, hr, hland⟩ (h next)

/-- The events outside are in step with the requests after the first: each tells the status of the
response before such a request and the URL of the request. -/
theorem outside_run (client : Client) (span : Span) (steps : Nat) (before : List Request)
    (f : Flight) :
    let sent := (run client span (steps + 1) before f).sent
    let outside := span.outside (run client span steps before f).events
    outside.length + 1 = sent.length ∧
      ∀ k l, outside[k]? = some l ↔ ∃ r next, client (before ++ sent.take (k + 1)) = .ok r ∧
        sent[k + 1]? = some next ∧ l = ⟨none, .following r.status next.url.render⟩ := by
  induction steps generalizing before f with
  | zero =>
      have hsent : (run client span 1 before f).sent = [f.request] := by
        by_cases h : ∃ next, Hop client before f next
        · obtain ⟨next, hhop⟩ := h
          exact (run_of_hop hhop).1
        · exact (run_of_stop (not_exists.mp h)).1
      rw [hsent]
      exact ⟨rfl, fun k l => ⟨fun h => (nomatch h), fun ⟨_, _, _, hnext, _⟩ => (nomatch hnext)⟩⟩
  | succ steps ih =>
      by_cases h : ∃ next, Hop client before f next
      · obtain ⟨next, hhop⟩ := h
        obtain ⟨r, hr, hland⟩ := id hhop
        obtain ⟨hlength, hevents⟩ := ih (before ++ [f.request]) next
        rw [outside_run_of_onward hr hland, (run_of_hop hhop).1]
        refine ⟨?_, fun k l => ?_⟩
        · rw [List.length_cons, List.length_cons, hlength]
        · cases k with
          | zero =>
              have hnext := head?_sent client span steps (before ++ [f.request]) next
              rw [List.head?_eq_getElem?] at hnext
              rw [List.getElem?_cons_zero, List.getElem?_cons_succ, hnext, List.take_succ_cons,
                List.take_zero, hr]
              constructor
              · intro hl
                exact ⟨r, next.request, rfl, rfl, (Option.some.inj hl).symm⟩
              · rintro ⟨_, _, hr', hnext', rfl⟩
                cases hr'
                cases hnext'
                rfl
          | succ k =>
              rw [List.getElem?_cons_succ, List.getElem?_cons_succ, List.take_succ_cons,
                List.append_cons before f.request (List.take (k + 1) _)]
              exact hevents k l
      · have hstop := not_exists.mp h
        rw [outside_run_of_stop hstop, (run_of_stop hstop).1]
        exact ⟨rfl, fun k l => ⟨fun h => (nomatch h), fun ⟨_, _, _, hnext, _⟩ => (nomatch hnext)⟩⟩

end Flight

/-! ## The events of a call -/

namespace Session

/-- The events of a call that stand outside the span of its session: there is one for each request
after the first, in no span, which tells of the redirect to that request.  So all events of a call
stand in the span if and only if it sends no second request.  (A request counts if the call sends
it when it is given one more step.) -/
theorem request_outside (s : Session) (client : Client) (steps : Nat) (method url : String)
    (o : RequestOptions) :
    let call (steps : Nat) := s.request client steps method url o
    let sent := (call (steps + 1)).sent
    let outside := s.span.outside (call steps).events
    outside.length = sent.length - 1 ∧
    (∀ k l, outside[k]? = some l ↔ ∃ r next, client (sent.take (k + 1)) = .ok r ∧
      sent[k + 1]? = some next ∧ l = ⟨none, .following r.status next.url.render⟩) ∧
    ((∀ l ∈ (call steps).events, l.span = some s.span) ↔ sent.length ≤ 1) := by
  intro call sent outside
  have hall : (∀ l ∈ (call steps).events, l.span = some s.span) ↔ outside.length = 0 := by
    rw [List.length_eq_zero_iff]
    exact Span.outside_eq_nil_iff.symm
  cases hprepare : s.prepare method url o with
  | error e =>
      have hcall (steps : Nat) : call steps = .done (.error e) := request_of_error hprepare
      have hsent : sent = [] := congrArg Trace.sent (hcall (steps + 1))
      have houtside : outside = [] := congrArg (fun t => s.span.outside t.events) (hcall steps)
      rw [hall, hsent, houtside]
      refine ⟨rfl, fun k l => ?_, fun _ => Nat.zero_le 1, fun _ => rfl⟩
      exact ⟨fun h => (nomatch h), fun ⟨_, _, _, hnext, _⟩ => (nomatch hnext)⟩
  | ok f =>
      have hcall (steps : Nat) : call steps = f.run client s.span steps [] := request_of_ok hprepare
      obtain ⟨hlength, hevents⟩ := Flight.outside_run client s.span steps [] f
      rw [← hcall, ← hcall] at hlength hevents
      have hlength : outside.length + 1 = sent.length := hlength
      refine ⟨Nat.eq_sub_of_add_eq hlength, hevents, ?_⟩
      rw [hall, ← hlength]
      exact Nat.le_zero.symm.trans Nat.succ_le_succ_iff.symm

/-- A redirect is followed: of the events of the call one stands in no span. -/
theorem request_outside_followed :
    let s : Session := ⟨Credentials.none.authorize, some "agent", .standard, .enabled⟩
    let url : Url := ⟨"http", some { host := some (.name "a") }, .rooted [""], none, none⟩
    let replies : Nat → Except ApiError Response
      | 0 => .ok ⟨302, .ofList [(.location, { bytes := Utf8.encode "/b" })], url, .buffered [], []⟩
      | _ => .ok ⟨200, .empty, url, .buffered [], []⟩
    let call := s.request (.playing replies) 2 "GET" "http://a/" {}
    ⟨none, .following 302 "http://a/b"⟩ ∈ call.events ∧
      ¬ ∀ l ∈ call.events, l.span = some s.span := by
  intro s url replies call
  have hevent : (⟨none, .following 302 "http://a/b"⟩ : Logged) ∈ call.events := by decide +kernel
  exact ⟨hevent, fun hall => (nomatch hall _ hevent)⟩

end Session

end VersionedApi
