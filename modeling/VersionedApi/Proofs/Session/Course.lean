import VersionedApi.Proofs.Session.Landing
import VersionedApi.Proofs.Session.Preparation

/-!
# The course of a run

A run goes through flights, one for each request it sends (`sent_eq_map_course`).  Each flight
after the first is a `Hop` from the one before, so what a hop keeps is kept along the whole course
(`course_induction`).

A hop keeps everything of a request but its URL, and takes that from the reply and from the URL the
reply was asked at.  So of the requests of a call only the first one depends on the URL and on the
parameters of the call (`request_sent_chain`).
-/

namespace VersionedApi

namespace Flight

/-! ## Hops -/

/-- The reply to a flight, after the requests `before`, lets it go on as `next`. -/
def Hop (client : Client) (before : List Request) (f next : Flight) : Prop :=
  ∃ r, client (before ++ [f.request]) = .ok r ∧ f.receive r = .onward next

section

variable {client : Client} {span : Span} {steps : Nat} {before : List Request} {f next : Flight}

theorem run_of_hop (h : Hop client before f next) :
    let rest := run client span steps (before ++ [f.request]) next
    (run client span (steps + 1) before f).sent = f.request :: rest.sent ∧
      (run client span (steps + 1) before f).outcome = rest.outcome := by
  obtain ⟨r, hr, hnext⟩ := h
  rw [run_of_onward hr hnext]
  exact ⟨rfl, rfl⟩

/-- A run whose flight does not go on ends with the answer to its request. -/
theorem run_of_stop (h : ∀ next, ¬ Hop client before f next) :
    (run client span (steps + 1) before f).sent = [f.request] ∧
      (run client span (steps + 1) before f).outcome =
        some ((client (before ++ [f.request])).map f.deliver) := by
  cases hr : client (before ++ [f.request]) with
  | error e =>
      rw [run_of_error hr]
      exact ⟨rfl, rfl⟩
  | ok r => exact run_of_not_onward hr fun next hnext => h next ⟨r, hr, hnext⟩

/-- The first request that a run sends is that of its flight. -/
theorem head?_sent (client : Client) (span : Span) (steps : Nat) (before : List Request)
    (f : Flight) : (run client span (steps + 1) before f).sent.head? = some f.request := by
  by_cases h : ∃ next, Hop client before f next
  · obtain ⟨next, hnext⟩ := h
    rw [(run_of_hop hnext).1, List.head?_cons]
  · rw [(run_of_stop (not_exists.mp h)).1, List.head?_cons]

theorem not_hop_of_error {e : ApiError} (hr : client (before ++ [f.request]) = .error e) :
    ∀ next, ¬ Hop client before f next := by
  rintro next ⟨r, hr', _⟩
  cases hr.symm.trans hr'

theorem not_hop_of_receive {r : Response} (hr : client (before ++ [f.request]) = .ok r)
    (hland : ∀ next, f.receive r ≠ .onward next) : ∀ next, ¬ Hop client before f next := by
  rintro next ⟨r', hr', hnext⟩
  cases hr.symm.trans hr'
  exact hland next hnext

theorem Hop.request_eq (h : Hop client before f next) :
    next.request = { f.request with url := next.request.url } := by
  obtain ⟨r, _, hnext⟩ := h
  obtain ⟨_, _, _, _, _, rfl⟩ := receive_eq_onward_iff.mp hnext
  rfl

theorem Hop.join_eq (h : Hop client before f next) :
    ∃ r value location, client (before ++ [f.request]) = .ok r ∧
      (r.headers.values .location).head? = some value ∧ value.text? = some location ∧
      f.request.url.join location = .ok next.request.url := by
  obtain ⟨r, hr, hnext⟩ := h
  obtain ⟨_, _, url, _, htarget, rfl⟩ := receive_eq_onward_iff.mp hnext
  obtain ⟨location, hlocation, hjoin⟩ := target_eq_ok_iff.mp htarget
  obtain ⟨value, hvalue, htext⟩ := location?_eq_some_iff.mp hlocation
  exact ⟨r, value, location, hr, hvalue, htext, hjoin⟩

end

/-! ## The flights of a run -/

/-- The flights that a run of at most a number of requests goes through, in order. -/
def course (client : Client) : Nat → List Request → Flight → List Flight
  | 0, _, _ => []
  | steps + 1, before, f =>
      match client (before ++ [f.request]) with
      | .error _ => [f]
      | .ok r =>
          match f.receive r with
          | .onward next => f :: course client steps (before ++ [f.request]) next
          | _ => [f]

section

variable {client : Client} {steps k : Nat} {before : List Request} {f g next : Flight}

theorem course_of_hop (h : Hop client before f next) :
    course client (steps + 1) before f =
      f :: course client steps (before ++ [f.request]) next := by
  obtain ⟨r, hr, hnext⟩ := h
  simp only [course, hr, hnext]

theorem course_of_stop (h : ∀ next, ¬ Hop client before f next) :
    course client (steps + 1) before f = [f] := by
  cases hr : client (before ++ [f.request]) with
  | error e => simp only [course, hr]
  | ok r =>
      cases hland : f.receive r with
      | final => simp only [course, hr, hland]
      | stranded reason => simp only [course, hr, hland]
      | onward next => exact absurd ⟨r, hr, hland⟩ (h next)

theorem sent_eq_map_course (client : Client) (span : Span) (steps : Nat) (before : List Request)
    (f : Flight) :
    (run client span steps before f).sent = (course client steps before f).map Flight.request := by
  induction steps generalizing before f with
  | zero => rfl
  | succ steps ih =>
      by_cases h : ∃ next, Hop client before f next
      · obtain ⟨next, hnext⟩ := h
        rw [(run_of_hop hnext).1, course_of_hop hnext, List.map_cons, ih]
      · have hstop := not_exists.mp h
        rw [(run_of_stop hstop).1, course_of_stop hstop, List.map_singleton]

theorem eq_of_course_zero (h : (course client steps before f)[0]? = some g) : g = f := by
  cases steps with
  | zero => cases h
  | succ steps =>
      by_cases hhop : ∃ next, Hop client before f next
      · obtain ⟨next, hnext⟩ := hhop
        rw [course_of_hop hnext] at h
        exact (Option.some.inj h).symm
      · rw [course_of_stop (not_exists.mp hhop)] at h
        exact (Option.some.inj h).symm

/-- Neighbours of a course are a hop apart. -/
theorem hop_of_course (hg : (course client steps before f)[k]? = some g)
    (hnext : (course client steps before f)[k + 1]? = some next) :
    Hop client (before ++ ((course client steps before f).take k).map Flight.request) g next := by
  induction steps generalizing before f k with
  | zero => cases hg
  | succ steps ih =>
      by_cases h : ∃ f', Hop client before f f'
      · obtain ⟨f', hf'⟩ := h
        rw [course_of_hop hf'] at hg hnext ⊢
        rw [List.getElem?_cons_succ] at hnext
        cases k with
        | zero =>
            rw [eq_of_course_zero hnext, ← Option.some.inj hg]
            simpa using hf'
        | succ k =>
            rw [List.getElem?_cons_succ] at hg
            rw [List.take_succ_cons, List.map_cons, List.append_cons]
            exact ih hg hnext
      · rw [course_of_stop (not_exists.mp h)] at hnext
        cases hnext

/-- What holds of a flight and is kept by hops holds along its course. -/
theorem course_induction {P : Nat → Flight → Prop} (hstart : P 0 f)
    (hhop : ∀ k sent g next, P k g → Hop client sent g next → P (k + 1) next)
    (h : (course client steps before f)[k]? = some g) : P k g := by
  induction k generalizing g with
  | zero => exact eq_of_course_zero h ▸ hstart
  | succ k ih =>
      obtain ⟨hlt, _⟩ := List.getElem?_eq_some_iff.mp h
      have hlast := List.getElem?_eq_getElem (Nat.lt_of_succ_lt hlt)
      exact hhop k _ _ g (ih hlast) (hop_of_course hlast h)

theorem request_of_course (h : (course client steps before f)[k]? = some g) :
    g.request = { f.request with url := g.request.url } := by
  refine course_induction (P := fun _ g => g.request = { f.request with url := g.request.url }) rfl
    (fun _ _ g next hg hhop => ?_) h
  have hnext := hhop.request_eq
  rw [hg] at hnext
  exact hnext

end

end Flight

/-! ## The requests of a call -/

namespace Session

open Flight

/-- The first request of a call goes to the URL of the call with the parameters added.  Every later
one repeats the first, but for the URL: this is the place that the first location of the last reply
names, seen from the URL of the request that was answered. -/
theorem request_sent_chain (s : Session) (client : Client) (steps : Nat) (method url : String)
    (o : RequestOptions) :
    let sent := (s.request client steps method url o).sent
    (∀ first, sent[0]? = some first →
      ∃ target, Url.parse url = .ok target ∧ first.url = target.addPairs o.params) ∧
    ∀ k first last next, sent[0]? = some first → sent[k]? = some last →
      sent[k + 1]? = some next →
      next = { first with url := next.url } ∧
      ∃ r value location, client (sent.take (k + 1)) = .ok r ∧
        (r.headers.values .location).head? = some value ∧ value.text? = some location ∧
        last.url.join location = .ok next.url := by
  intro sent
  cases hprepare : s.prepare method url o with
  | error e =>
      have hnone : sent = [] := congrArg Trace.sent (request_of_error hprepare)
      rw [hnone]
      exact ⟨fun _ h => (nomatch h), fun _ _ _ _ h => (nomatch h)⟩
  | ok f =>
      obtain ⟨_, _, target, _, _, htarget, hf⟩ := prepare_eq_ok_iff.mp hprepare
      have hsent : sent = (course client steps [] f).map Flight.request :=
        (congrArg Trace.sent (request_of_ok hprepare)).trans (sent_eq_map_course _ _ _ _ _)
      rw [hsent]
      simp only [List.getElem?_map, Option.map_eq_some_iff]
      constructor
      · rintro _ ⟨g, hg, rfl⟩
        rw [eq_of_course_zero hg, hf]
        exact ⟨target, htarget, rfl⟩
      · rintro k _ _ _ ⟨start, hstart, rfl⟩ ⟨last, hlast, rfl⟩ ⟨next, hnext, rfl⟩
        rw [eq_of_course_zero hstart]
        refine ⟨request_of_course hnext, ?_⟩
        have hsofar : ((course client steps [] f).map Flight.request).take (k + 1) =
            ((course client steps [] f).take k).map Flight.request ++ [last.request] := by
          simp [List.take_add_one, hlast]
        rw [hsofar]
        exact (hop_of_course hlast hnext).join_eq

/-- A redirect by a relative location and one to another host: both repeat the body and the headers
of the call, and only the first request has its parameter. -/
theorem request_sent_chain_elsewhere :
    let placed (host segment : String) (query : Option String) : Url :=
      ⟨"http", some { host := some (.name host) }, .rooted [segment], query, none⟩
    let s : Session := ⟨Credentials.none.authorize, some "agent", .standard, .enabled⟩
    let o : RequestOptions := { data := some [104, 105], params := [("p", "1 2")] }
    let hop (status : Nat) (location : String) : Response :=
      ⟨status, .ofList [(.location, { bytes := Utf8.encode location })], placed "a" "" none,
        .buffered [], []⟩
    let client : Client
      | [_] => .ok (hop 303 "y?z")
      | [_, _] => .ok (hop 307 "//b/c")
      | _ => .error (.http "closed")
    let first : Request :=
      ⟨"POST", placed "a" "x" (some "p=1+2"),
        .ofList [(.userAgent, { bytes := Utf8.encode "agent" })], some [104, 105], .enabled, none,
        false⟩
    let second := { first with url := placed "a" "y" (some "z") }
    let third := { first with url := placed "b" "c" none }
    let sent := (s.request client 5 "POST" "http://a/x" o).sent
    sent = [first, second, third] ∧
      (∃ target, Url.parse "http://a/x" = .ok target ∧ first.url = target.addPairs o.params) ∧
      ∃ r value location, client [first, second] = .ok r ∧
        (r.headers.values .location).head? = some value ∧ value.text? = some location ∧
        second.url.join location = .ok third.url := by
  intro placed s o hop client first second third sent
  let start : Flight := ⟨first, .limit 30, []⟩
  let middle : Flight := start.redirected (hop 303 "y?z") (.limit 29) (placed "a" "y" (some "z"))
  let last : Flight := middle.redirected (hop 307 "//b/c") (.limit 28) (placed "b" "c" none)
  have hread : Url.parse "http://a/x" = .ok (placed "a" "x" none) := by decide +kernel
  have hadded : first.url = (placed "a" "x" none).addPairs o.params := by decide +kernel
  have hprepare : s.prepare "POST" "http://a/x" o = .ok start :=
    prepare_eq_ok_iff.mpr ⟨first.headers, first.headers, _, by decide +kernel, rfl, hread,
      by rw [departure, ← hadded]; rfl⟩
  have hsecond : Flight.target first.url (hop 303 "y?z") = .ok second.url := by decide +kernel
  have hthird : Flight.target second.url (hop 307 "//b/c") = .ok third.url := by decide +kernel
  have hmiddle : Hop client [] start middle :=
    ⟨_, rfl, receive_eq_onward_iff.mpr ⟨rfl, _, _, rfl, hsecond, rfl⟩⟩
  have hlast : Hop client [first] middle last :=
    ⟨_, rfl, receive_eq_onward_iff.mpr ⟨rfl, _, _, rfl, hthird, rfl⟩⟩
  have hclosed : client ([first, second] ++ [last.request]) = .error (.http "closed") := rfl
  have hsent : sent = [first, second, third] :=
    calc sent = (Flight.run client s.span 5 [] start).sent :=
          congrArg Trace.sent (request_of_ok hprepare)
      _ = first :: (Flight.run client s.span 4 [first] middle).sent := (run_of_hop hmiddle).1
      _ = first :: second :: (Flight.run client s.span 3 [first, second] last).sent :=
          congrArg (first :: ·) (run_of_hop hlast).1
      _ = [first, second, third] :=
          congrArg (fun t : Trace Response => first :: second :: t.sent) (run_of_error hclosed)
  obtain ⟨hfirst, hchain⟩ := request_sent_chain s client 5 "POST" "http://a/x" o
  have h0 : sent[0]? = some first := by rw [hsent]; rfl
  have h1 : sent[1]? = some second := by rw [hsent]; rfl
  have h2 : sent[2]? = some third := by rw [hsent]; rfl
  refine ⟨hsent, hfirst first h0, ?_⟩
  obtain ⟨_, r, value, location, hr, hrest⟩ := hchain 1 first second third h0 h1 h2
  refine ⟨r, value, location, ?_, hrest⟩
  rw [← hr]
  change client [first, second] = client (sent.take 2)
  rw [hsent]
  rfl

end Session

end VersionedApi
