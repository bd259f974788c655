import VersionedApi.Proofs.Http.Header
import VersionedApi.Session.Basic

/-!
# The headers of a call

The headers of a request are those of the caller, changed in three steps: the type of a JSON body,
the user agent and the token are put in place of what the caller gave.  Each step says what it does
to the values of one name and leaves the other names alone.

Which user agent is put in, if any, is the relation `Introduces`: that of the session is for calls
in which neither the options nor the headers of the caller name one.  `Composes` are the headers
that the authorizer gets to see.
-/

namespace VersionedApi

theorem HeaderValue.eq_of_ofText? {s : String} {v : HeaderValue} (h : ofText? s = .ok v) :
    v = { bytes := Utf8.encode s } := by
  rw [ofText?, ofBytes?] at h
  split at h
  next => cases h; rfl
  next => cases h

/-! ## The token -/

/-- The values of the token that credentials make of those given. -/
def Credentials.tokenSent : Credentials → List HeaderValue → List HeaderValue
  | .token text, _ => [{ bytes := Utf8.encode text, sensitive := true }]
  | .none, given => given

section

variable {k : Credentials} {given headers : HeaderMap}

theorem Credentials.values_authorize (h : k.authorize given = .ok headers) (name : HeaderName) :
    headers.values name =
      if name = .authToken then k.tokenSent (given.values .authToken) else given.values name := by
  cases k with
  | none =>
      cases h
      split
      next heq => rw [heq, tokenSent]
      next => rfl
  | token text =>
      rw [authorize] at h
      split at h
      next value hvalue =>
        cases h
        rw [HeaderMap.values_insert, HeaderValue.eq_of_ofText? hvalue, tokenSent]
      next => cases h

theorem Credentials.wellFormed_authorize (h : k.authorize given = .ok headers)
    (hgiven : given.WellFormed) : headers.WellFormed := by
  cases k with
  | none =>
      cases h
      exact hgiven
  | token text =>
      rw [authorize] at h
      split at h
      next => cases h; exact hgiven.insert _ _
      next => cases h

end

namespace Session

variable {s : Session} {o : RequestOptions} {named : HeaderMap}

/-! ## The type of the body -/

/-- The values of the type that a call makes of those given. -/
def typeSent : Option Json → List HeaderValue → List HeaderValue
  | some _, _ => [{ bytes := Utf8.encode "application/json" }]
  | none, given => given

theorem values_typed (o : RequestOptions) (name : HeaderName) :
    (typed o).values name =
      if name = .contentType then typeSent o.json (o.headers.values .contentType)
      else o.headers.values name := by
  cases hjson : o.json with
  | none =>
      simp only [typed, hjson, typeSent]
      split
      next heq => rw [heq]
      next => rfl
  | some value =>
      simp only [typed, hjson, typeSent, HeaderMap.values_insert, jsonType]

theorem wellFormed_typed (ho : o.headers.WellFormed) : (typed o).WellFormed := by
  rw [typed]
  split
  · exact ho.insert _ _
  · exact ho

/-! ## The user agent -/

/-- The user agent that a call puts in: its own one, or that of the session if the headers of the
caller name none. -/
inductive Introduces (s : Session) (o : RequestOptions) : String → Prop where
  /-- The user agent of the call. -/
  | own {agent : String} (h : o.userAgent = some agent) : Introduces s o agent
  /-- The user agent of the session. -/
  | default {agent : String} (hown : o.userAgent = none) (hgiven : .userAgent ∉ o.headers.names)
      (h : s.userAgent = some agent) : Introduces s o agent

/-- The headers that a call puts to the authorizer. -/
inductive Composes (s : Session) (o : RequestOptions) : HeaderMap → Prop where
  /-- With the user agent that the call puts in. -/
  | introduced {agent : String} {value : HeaderValue} (h : s.Introduces o agent)
      (hvalue : HeaderValue.ofText? agent = .ok value) :
      Composes s o ((typed o).insert .userAgent value)
  /-- Without one. -/
  | given (h : ∀ agent, ¬ s.Introduces o agent) : Composes s o (typed o)

theorem contains_typed_userAgent (o : RequestOptions) :
    (typed o).contains .userAgent = true ↔ .userAgent ∈ o.headers.names := by
  rw [HeaderMap.contains_iff, typed]
  split
  · rw [HeaderMap.mem_names_insert, or_iff_right (by decide)]
  · rfl

theorem agent?_eq_some_iff {agent : String} : s.agent? o = some agent ↔ s.Introduces o agent := by
  have hcontains := contains_typed_userAgent o
  rw [agent?]
  constructor
  · intro h
    split at h
    next hown =>
      cases h
      exact .own hown
    next hown =>
      split at h
      next => cases h
      next hno => exact .default hown (mt hcontains.mpr hno) h
  · intro h
    cases h with
    | own hown => rw [hown]
    | default hown hgiven h =>
        rw [hown]
        dsimp only
        rw [if_neg (mt hcontains.mp hgiven), h]

theorem agent?_eq_none_iff : s.agent? o = none ↔ ∀ agent, ¬ s.Introduces o agent := by
  simp only [← agent?_eq_some_iff, Option.eq_none_iff_forall_ne_some, ne_eq]

theorem named_eq_ok_iff : s.named o = .ok named ↔ s.Composes o named := by
  rw [Session.named]
  constructor
  · intro h
    split at h
    next hnone =>
      cases h
      exact .given (agent?_eq_none_iff.mp hnone)
    next hagent =>
      split at h
      next hvalue =>
        cases h
        exact .introduced (agent?_eq_some_iff.mp hagent) hvalue
      next => cases h
  · intro h
    cases h with
    | introduced h hvalue =>
        rw [agent?_eq_some_iff.mpr h]
        dsimp only
        rw [hvalue]
    | given h => rw [agent?_eq_none_iff.mpr h]

theorem named_eq_error_iff {e : ApiError} :
    s.named o = .error e ↔ ∃ agent fault, s.Introduces o agent ∧
      HeaderValue.ofText? agent = .error fault ∧ e = .invalidHeader fault.message := by
  simp only [← agent?_eq_some_iff]
  rw [Session.named]
  cases s.agent? o with
  | none => simp
  | some agent =>
      dsimp only
      cases hvalue : HeaderValue.ofText? agent with
      | ok value => simp [hvalue]
      | error fault => simp [hvalue, ApiError.ofHeader, eq_comm]

/-- The values of the user agent that a call makes of those given. -/
def agentSent (own : Option String) (given : List HeaderValue) (default : Option String) :
    List HeaderValue :=
  match own, given, default with
  | some agent, _, _ => [{ bytes := Utf8.encode agent }]
  | none, [], some agent => [{ bytes := Utf8.encode agent }]
  | none, given, _ => given

theorem Introduces.agentSent_eq {agent : String} (h : s.Introduces o agent) :
    agentSent o.userAgent (o.headers.values .userAgent) s.userAgent =
      [{ bytes := Utf8.encode agent }] := by
  cases h with
  | own h => rw [h, agentSent]
  | default hown hgiven h =>
      rw [hown, HeaderMap.values_eq_nil_of_notMem hgiven, h, agentSent]

theorem agentSent_of_not_introduces (ho : o.headers.WellFormed)
    (h : ∀ agent, ¬ s.Introduces o agent) :
    agentSent o.userAgent (o.headers.values .userAgent) s.userAgent =
      o.headers.values .userAgent := by
  unfold agentSent
  split
  next hown => exact absurd (.own hown) (h _)
  next hown hnil hdefault =>
    have hgiven : .userAgent ∉ o.headers.names := fun hmem => ho.mem_names_iff.mp hmem hnil
    exact absurd (.default hown hgiven hdefault) (h _)
  next => rfl

theorem values_named (ho : o.headers.WellFormed) (h : s.named o = .ok named) (name : HeaderName) :
    named.values name =
      if name = .userAgent then agentSent o.userAgent (o.headers.values .userAgent) s.userAgent
      else (typed o).values name := by
  cases named_eq_ok_iff.mp h with
  | introduced hintroduces hvalue =>
      rw [HeaderMap.values_insert, hintroduces.agentSent_eq, HeaderValue.eq_of_ofText? hvalue]
  | given hnone =>
      rw [agentSent_of_not_introduces ho hnone]
      split
      next heq => rw [heq, values_typed, if_neg (by decide)]
      next => rfl

theorem wellFormed_named (ho : o.headers.WellFormed) (h : s.named o = .ok named) :
    named.WellFormed := by
  cases named_eq_ok_iff.mp h with
  | introduced => exact (wellFormed_typed ho).insert _ _
  | given => exact wellFormed_typed ho

end Session

end VersionedApi
