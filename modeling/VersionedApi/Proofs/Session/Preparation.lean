import VersionedApi.Session.Basic
import VersionedApi.Proofs.Outcome

/-!
# The preparation of a request

A request is prepared by putting in the user agent, asking the authorizer and reading the URL, in
this order.  `prepare_eq_ok_iff` and `prepare_eq_error_iff` give the outcome of the three by what
each of them gives.
-/

namespace VersionedApi

namespace Session

/-- The flight that a call starts, with the headers and the target it came to. -/
def departure (s : Session) (method : String) (o : RequestOptions) (headers : HeaderMap)
    (target : Url) : Flight where
  request :=
    { method, headers
      url := target.addPairs o.params
      body := body o
      verify := o.verify.getD s.verify
      timeout := o.timeout
      stream := o.stream }
  budget := o.redirect.getD s.redirect
  history := []

variable {s : Session} {client : Client} {steps : Nat} {method url : String} {o : RequestOptions}
  {f : Flight} {e : ApiError}

theorem prepare_eq_ok_iff :
    s.prepare method url o = .ok f ↔
      ∃ named headers target, s.named o = .ok named ∧ s.authorize named = .ok headers ∧
        Url.parse url = .ok target ∧ f = s.departure method o headers target := by
  constructor
  · intro h
    obtain ⟨named, hnamed, h⟩ := Outcome.bind_eq_ok_iff.mp h
    obtain ⟨headers, hheaders, h⟩ := Outcome.bind_eq_ok_iff.mp h
    obtain ⟨target, htarget, h⟩ := Outcome.bind_eq_ok_iff.mp h
    cases h
    exact ⟨named, headers, target, hnamed, hheaders, Outcome.mapError_eq_ok_iff.mp htarget, rfl⟩
  · rintro ⟨named, headers, target, hnamed, hheaders, htarget, rfl⟩
    exact Outcome.bind_eq_ok_iff.mpr ⟨named, hnamed, Outcome.bind_eq_ok_iff.mpr
      ⟨headers, hheaders, Outcome.bind_eq_ok_iff.mpr
        ⟨target, Outcome.mapError_eq_ok_iff.mpr htarget, rfl⟩⟩⟩

theorem prepare_eq_error_iff :
    s.prepare method url o = .error e ↔
      s.named o = .error e ∨ ∃ named, s.named o = .ok named ∧
        (s.authorize named = .error e ∨ ∃ headers, s.authorize named = .ok headers ∧
          ∃ fault, Url.parse url = .error fault ∧ e = .invalidUrl fault) := by
  constructor
  · intro h
    rcases Outcome.bind_eq_error_iff.mp h with h | ⟨named, hnamed, h⟩
    · exact Or.inl h
    · refine Or.inr ⟨named, hnamed, ?_⟩
      rcases Outcome.bind_eq_error_iff.mp h with h | ⟨headers, hheaders, h⟩
      · exact Or.inl h
      · refine Or.inr ⟨headers, hheaders, ?_⟩
        rcases Outcome.bind_eq_error_iff.mp h with h | ⟨_, _, h⟩
        · obtain ⟨fault, hfault, rfl⟩ := Outcome.mapError_eq_error_iff.mp h
          exact ⟨fault, hfault, rfl⟩
        · cases h
  · rintro (h | ⟨named, hnamed, h | ⟨headers, hheaders, fault, hfault, rfl⟩⟩)
    · exact Outcome.bind_eq_error_iff.mpr (Or.inl h)
    · exact Outcome.bind_eq_error_iff.mpr (Or.inr ⟨named, hnamed,
        Outcome.bind_eq_error_iff.mpr (Or.inl h)⟩)
    · exact Outcome.bind_eq_error_iff.mpr (Or.inr ⟨named, hnamed,
        Outcome.bind_eq_error_iff.mpr (Or.inr ⟨headers, hheaders, Outcome.bind_eq_error_iff.mpr
          (Or.inl (Outcome.mapError_eq_error_iff.mpr ⟨fault, hfault, rfl⟩))⟩)⟩)

/-- A request that cannot be prepared is not sent, and leaves no event. -/
theorem request_of_error (h : s.prepare method url o = .error e) :
    s.request client steps method url o = .done (.error e) := by
  rw [request, h]

theorem request_of_ok (h : s.prepare method url o = .ok f) :
    s.request client steps method url o = f.run client s.span steps [] := by
  rw [request, h]

end Session

end VersionedApi
