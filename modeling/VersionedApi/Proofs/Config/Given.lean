import VersionedApi.Config.Basic
import VersionedApi.Proofs.Json.Parts

/-!
# What a value gives for a setting

A setting is found in its section under a name, or at a place if the section is a list, and so is a
section in all of the settings.  `Json.given?` reads one setting and looks at nothing else.  What
is decoded together are these readings, each with its own default: what a value gives for one
setting plays no part in another (`SessionConfig.eq_fill_of_decode`,
`DiscoveryConfig.eq_fill_of_decode`, `Config.eq_fill_of_decode`).
-/

namespace VersionedApi

namespace Json

/-- What a value gives for a field, if it gives anything that can be decoded. -/
def given? {α : Type} (decode : Json → Decoded α) (name : String) (index : Nat) (v : Json) :
    Option α :=
  (v.part? name index).bind fun x => (decode x).toOption

variable {α : Type} {decode : Json → Decoded α} {o : Option α}

theorem Reads.given?_eq {name : String} {index : Nat} {v : Json}
    (h : Reads decode (v.part? name index) o) : given? decode name index v = o := by
  rw [given?]
  generalize v.part? name index = part at h
  cases h with
  | absent => rfl
  | present h => simp [h, Except.toOption]

end Json

open Json

variable {surplus : Surplus} {v : Json}

theorem SessionConfig.eq_fill_of_decode {c : SessionConfig} (h : decode surplus v = .ok c) :
    c = fill (given? (asOptional asText) "user_agent" 0 v)
      (given? RedirectPolicy.ofJson "redirect" 1 v) (given? Verification.ofJson "verify" 2 v)
      (given? (asOptional asUInt64) "timeout_secs" 3 v) := by
  cases v with
  | obj ms =>
      obtain ⟨redirect, hredirect, h⟩ := Outcome.bind_eq_ok_iff.mp h
      obtain ⟨timeoutSecs, htimeout, h⟩ := Outcome.bind_eq_ok_iff.mp h
      obtain ⟨userAgent, hagent, h⟩ := Outcome.bind_eq_ok_iff.mp h
      obtain ⟨verify, hverify, h⟩ := Outcome.bind_eq_ok_iff.mp h
      cases h
      rw [((field?_eq_ok_iff _).mp hagent).given?_eq, ((field?_eq_ok_iff _).mp hredirect).given?_eq,
        ((field?_eq_ok_iff _).mp hverify).given?_eq, ((field?_eq_ok_iff _).mp htimeout).given?_eq]
  | arr items =>
      obtain ⟨userAgent, hagent, h⟩ := Outcome.bind_eq_ok_iff.mp h
      obtain ⟨redirect, hredirect, h⟩ := Outcome.bind_eq_ok_iff.mp h
      obtain ⟨verify, hverify, h⟩ := Outcome.bind_eq_ok_iff.mp h
      obtain ⟨timeoutSecs, htimeout, h⟩ := Outcome.bind_eq_ok_iff.mp h
      obtain ⟨_, _, h⟩ := Outcome.bind_eq_ok_iff.mp h
      cases h
      rw [((item?_eq_ok_iff _).mp hagent).given?_eq, ((item?_eq_ok_iff _).mp hredirect).given?_eq,
        ((item?_eq_ok_iff _).mp hverify).given?_eq, ((item?_eq_ok_iff _).mp htimeout).given?_eq]
  | _ => cases h

theorem DiscoveryConfig.eq_fill_of_decode {c : DiscoveryConfig} (h : decode surplus v = .ok c) :
    c = fill (given? asBool "strict" 0 v) (given? asBool "workaround_url_bug" 1 v)
      (given? (asList asText) "placeholder_hosts" 2 v) := by
  cases v with
  | obj ms =>
      obtain ⟨hosts, hhosts, h⟩ := Outcome.bind_eq_ok_iff.mp h
      obtain ⟨strict, hstrict, h⟩ := Outcome.bind_eq_ok_iff.mp h
      obtain ⟨workaround, hworkaround, h⟩ := Outcome.bind_eq_ok_iff.mp h
      cases h
      rw [((field?_eq_ok_iff _).mp hstrict).given?_eq,
        ((field?_eq_ok_iff _).mp hworkaround).given?_eq, ((field?_eq_ok_iff _).mp hhosts).given?_eq]
  | arr items =>
      obtain ⟨strict, hstrict, h⟩ := Outcome.bind_eq_ok_iff.mp h
      obtain ⟨workaround, hworkaround, h⟩ := Outcome.bind_eq_ok_iff.mp h
      obtain ⟨hosts, hhosts, h⟩ := Outcome.bind_eq_ok_iff.mp h
      obtain ⟨_, _, h⟩ := Outcome.bind_eq_ok_iff.mp h
      cases h
      rw [((item?_eq_ok_iff _).mp hstrict).given?_eq,
        ((item?_eq_ok_iff _).mp hworkaround).given?_eq, ((item?_eq_ok_iff _).mp hhosts).given?_eq]
  | _ => cases h

/-! ## Sections -/

section

variable {α : Type}

/-- What settings give for a setting of sessions. -/
def Json.session? (decode : Json → Decoded α) (name : String) (index : Nat) (v : Json) : Option α :=
  (v.part? "session" 0).bind (given? decode name index)

/-- What settings give for a setting of discovery. -/
def Json.discovery? (decode : Json → Decoded α) (name : String) (index : Nat) (v : Json) :
    Option α :=
  (v.part? "discovery" 1).bind (given? decode name index)

end

theorem SessionConfig.eq_fill_of_reads {o : Option SessionConfig}
    (h : Reads (decode surplus) (v.part? "session" 0) o) :
    o.getD {} = fill (v.session? (asOptional asText) "user_agent" 0)
      (v.session? RedirectPolicy.ofJson "redirect" 1)
      (v.session? Verification.ofJson "verify" 2)
      (v.session? (asOptional asUInt64) "timeout_secs" 3) := by
  simp only [session?]
  generalize v.part? "session" 0 = part at h
  cases h with
  | absent => rfl
  | present h => exact eq_fill_of_decode h

theorem DiscoveryConfig.eq_fill_of_reads {o : Option DiscoveryConfig}
    (h : Reads (decode surplus) (v.part? "discovery" 1) o) :
    o.getD {} = fill (v.discovery? asBool "strict" 0)
      (v.discovery? asBool "workaround_url_bug" 1)
      (v.discovery? (asList asText) "placeholder_hosts" 2) := by
  simp only [discovery?]
  generalize v.part? "discovery" 1 = part at h
  cases h with
  | absent => rfl
  | present h => exact eq_fill_of_decode h

/-- All settings of a value: each as the value gives it, or else its default. -/
theorem Config.eq_fill_of_decode {c : Config} (h : decode surplus v = .ok c) :
    c.session = SessionConfig.fill (v.session? (asOptional asText) "user_agent" 0)
        (v.session? RedirectPolicy.ofJson "redirect" 1)
        (v.session? Verification.ofJson "verify" 2)
        (v.session? (asOptional asUInt64) "timeout_secs" 3) ∧
      c.discovery = DiscoveryConfig.fill (v.discovery? asBool "strict" 0)
        (v.discovery? asBool "workaround_url_bug" 1)
        (v.discovery? (asList asText) "placeholder_hosts" 2) := by
  cases v with
  | obj ms =>
      obtain ⟨discovery, hdiscovery, h⟩ := Outcome.bind_eq_ok_iff.mp h
      obtain ⟨session, hsession, h⟩ := Outcome.bind_eq_ok_iff.mp h
      cases h
      exact ⟨SessionConfig.eq_fill_of_reads ((field?_eq_ok_iff _).mp hsession),
        DiscoveryConfig.eq_fill_of_reads ((field?_eq_ok_iff _).mp hdiscovery)⟩
  | arr items =>
      obtain ⟨session, hsession, h⟩ := Outcome.bind_eq_ok_iff.mp h
      obtain ⟨discovery, hdiscovery, h⟩ := Outcome.bind_eq_ok_iff.mp h
      obtain ⟨_, _, h⟩ := Outcome.bind_eq_ok_iff.mp h
      cases h
      exact ⟨SessionConfig.eq_fill_of_reads ((item?_eq_ok_iff _).mp hsession),
        DiscoveryConfig.eq_fill_of_reads ((item?_eq_ok_iff _).mp hdiscovery)⟩
  | _ => cases h

end VersionedApi
