import VersionedApi.Session.Exchange
import VersionedApi.Proofs.Outcome

/-!
# One step of an exchange

What a reply makes of a flight, and what that adds to the run.  `receive_eq_onward_iff` says when
the flight goes on and to what; one equation for each way a request can end opens a step of
`Flight.run`.  A policy is described by how many redirects it allows (`RedirectPolicy.Allows`), so
that the budgets of a chain of flights need no account of their own (`allows_takeHop`).
-/

namespace VersionedApi

namespace RedirectPolicy

/-- A redirect is allowed after a number of them. -/
def Allows : RedirectPolicy → Nat → Prop
  | .never, _ => False
  | .limit hops, k => k < hops.toNat
  | .unlimited, _ => True

instance : ∀ (p : RedirectPolicy) (k : Nat), Decidable (p.Allows k)
  | .never, _ => isFalse id
  | .limit hops, k => Nat.decLt k hops.toNat
  | .unlimited, _ => isTrue trivial

theorem takeHop_eq_none_iff (p : RedirectPolicy) : p.takeHop = none ↔ ¬ p.Allows 0 := by
  cases p with
  | never => exact ⟨fun _ h => h, fun _ => rfl⟩
  | limit hops =>
      rw [takeHop, Allows]
      split
      next h =>
        subst h
        exact ⟨fun _ => Nat.not_lt_zero _, fun _ => rfl⟩
      next h =>
        have hpos : 0 < hops.toNat := Nat.pos_of_ne_zero fun h0 => h (UInt32.toNat_inj.mp h0)
        exact ⟨fun h => (nomatch h), fun h => absurd hpos h⟩
  | unlimited => exact ⟨fun h => (nomatch h), fun h => absurd trivial h⟩

/-- A redirect takes one off a limit, which has one to give. -/
theorem takeHop_limit {hops : UInt32} {q : RedirectPolicy} (h : (limit hops).takeHop = some q) :
    ∃ left : UInt32, q = .limit left ∧ left.toNat + 1 = hops.toNat := by
  rw [takeHop] at h
  split at h
  next => cases h
  next hne =>
    cases h
    have hpos : 0 < hops.toNat := Nat.pos_of_ne_zero fun h0 => hne (UInt32.toNat_inj.mp h0)
    have hone : (1 : UInt32) ≤ hops := UInt32.le_iff_toNat_le.mpr hpos
    refine ⟨hops - 1, rfl, ?_⟩
    rw [UInt32.toNat_sub_of_le _ _ hone]
    exact Nat.sub_add_cancel hpos

/-- One redirect takes one from what is allowed. -/
theorem allows_takeHop {p q : RedirectPolicy} (h : p.takeHop = some q) (k : Nat) :
    q.Allows k ↔ p.Allows (k + 1) := by
  cases p with
  | never => cases h
  | limit hops =>
      obtain ⟨left, rfl, hone⟩ := takeHop_limit h
      rw [Allows, Allows, ← hone]
      exact Nat.succ_lt_succ_iff.symm
  | unlimited =>
      cases h
      exact Iff.rfl

end RedirectPolicy

/-- Events in a span. -/
def Span.log (span : Span) (events : List Event) : List Logged :=
  events.map fun event => ⟨some span, event⟩

namespace Flight

/-! ## What a reply makes of a flight -/

theorem location?_eq_some_iff {r : Response} {location : String} :
    r.location? = some location ↔
      ∃ value, (r.headers.values .location).head? = some value ∧ value.text? = some location :=
  Option.bind_eq_some_iff

theorem isRedirect_iff {r : Response} :
    r.isRedirect = true ↔ r.status ∈ [301, 302, 303, 305, 307] :=
  List.contains_iff_mem

theorem target_eq_ok_iff {url next : Url} {r : Response} :
    target url r = .ok next ↔
      ∃ location, r.location? = some location ∧ url.join location = .ok next := by
  rw [target]
  cases r.location? with
  | none => exact ⟨fun h => (nomatch h), fun ⟨_, h, _⟩ => (nomatch h)⟩
  | some location =>
      refine Outcome.mapError_eq_ok_iff.trans ⟨fun h => ⟨location, rfl, h⟩, ?_⟩
      rintro ⟨_, hl, h⟩
      cases hl
      exact h

/-- The flight as it goes on after a redirect. -/
def redirected (f : Flight) (r : Response) (budget : RedirectPolicy) (url : Url) : Flight :=
  { request := { f.request with url }, budget, history := f.history ++ [r] }

/-- A flight goes on if the reply redirects, the policy allows it and the place can be reached. -/
theorem receive_eq_onward_iff {f next : Flight} {r : Response} :
    f.receive r = .onward next ↔
      r.isRedirect = true ∧ ∃ budget url, f.budget.takeHop = some budget ∧
        target f.request.url r = .ok url ∧ next = f.redirected r budget url := by
  rw [receive]
  cases r.isRedirect with
  | false => exact ⟨fun h => (nomatch h), fun h => (nomatch h.1)⟩
  | true =>
      cases f.budget.takeHop with
      | none => exact ⟨fun h => (nomatch h), fun ⟨_, _, _, h, _⟩ => (nomatch h)⟩
      | some budget =>
          cases target f.request.url r with
          | error reason => exact ⟨fun h => (nomatch h), fun ⟨_, _, _, _, h, _⟩ => (nomatch h)⟩
          | ok url =>
              constructor
              · intro h
                cases h
                exact ⟨rfl, budget, url, rfl, rfl, rfl⟩
              · rintro ⟨_, _, _, hb, hu, rfl⟩
                cases hb
                cases hu
                rfl

/-! ## A step of a run -/

/-- What is logged of a request and its reply. -/
def exchanged (span : Span) (f : Flight) (r : Response) : List Logged :=
  span.log (Event.ofRequest f.request) ++ span.log (Event.ofResponse r)

section

variable {client : Client} {span : Span} {steps : Nat} {before : List Request} {f : Flight}
  {r : Response}

theorem run_of_error {e : ApiError} (h : client (before ++ [f.request]) = .error e) :
    run client span (steps + 1) before f =
      ⟨[f.request], span.log (Event.ofRequest f.request), some (.error e)⟩ := by
  simp only [run, h]
  rfl

theorem run_of_final (h : client (before ++ [f.request]) = .ok r) (hland : f.receive r = .final) :
    run client span (steps + 1) before f =
      ⟨[f.request], exchanged span f r, some (.ok (f.deliver r))⟩ := by
  simp only [run, h, hland]
  rfl

theorem run_of_stranded {reason : Unresolved} (h : client (before ++ [f.request]) = .ok r)
    (hland : f.receive r = .stranded reason) :
    run client span (steps + 1) before f =
      ⟨[f.request],
        exchanged span f r ++
          span.log [Event.unresolved r.status r.url.render reason.message],
        some (.ok (f.deliver r))⟩ := by
  simp only [run, h, hland]
  rfl

theorem run_of_onward {next : Flight} (h : client (before ++ [f.request]) = .ok r)
    (hland : f.receive r = .onward next) :
    run client span (steps + 1) before f =
      let rest := run client span steps (before ++ [f.request]) next
      ⟨f.request :: rest.sent,
        exchanged span f r ++
          ⟨none, .following r.status next.request.url.render⟩ :: rest.events,
        rest.outcome⟩ := by
  simp only [run, h, hland]
  rfl

/-- A reply with which the flight does not go on is the answer. -/
theorem run_of_not_onward (h : client (before ++ [f.request]) = .ok r)
    (hland : ∀ next, f.receive r ≠ .onward next) :
    (run client span (steps + 1) before f).sent = [f.request] ∧
      (run client span (steps + 1) before f).outcome = some (.ok (f.deliver r)) := by
  cases hreceive : f.receive r with
  | final =>
      rw [run_of_final h hreceive]
      exact ⟨rfl, rfl⟩
  | stranded reason =>
      rw [run_of_stranded h hreceive]
      exact ⟨rfl, rfl⟩
  | onward next => exact absurd hreceive (hland next)

end

end Flight

end VersionedApi
