import Mathlib.Logic.Basic
import VersionedApi.Config.Environment
import VersionedApi.Proofs.Text.Trim

/-!
# What the environment overrides

An environment overrides a setting if the file of settings cannot show through: whatever it says,
the setting is the same (`Environment.Overrides`).  `Environment.governs` says of each setting when
this is so.  A setting with a variable of its own is overridden exactly if the variable is well
formed, so only malformed values are ignored.

Verification has two variables.  A file of certificates overrides it, and so does the word for yes
that turns it off; the word for no is read and then ignored, so a file that turns verification off
wins over an environment that says not to (`Environment.not_overrides_insecure`).
-/

namespace VersionedApi.Environment

variable {α : Type} {env : Environment}

/-- A setting is the same under the environment, whatever the settings were. -/
def Overrides (env : Environment) (setting : Config → α) : Prop :=
  ∀ c c' : Config, setting (c.withEnvironment env) = setting (c'.withEnvironment env)

/-- A setting that is taken from the environment, or else left, is overridden exactly if the
environment gives it. -/
theorem overrides_iff {setting : Config → α} {given : Option α}
    (hread : ∀ c : Config, setting (c.withEnvironment env) = given.getD (setting c))
    (hvaries : ∃ c c' : Config, setting c ≠ setting c') :
    env.Overrides setting ↔ given.isSome = true := by
  cases given with
  | none =>
      obtain ⟨c, c', hne⟩ := hvaries
      constructor
      · intro h
        have hsame := h c c'
        rw [hread, hread] at hsame
        exact absurd hsame hne
      · intro h
        cases h
  | some a =>
      constructor
      · intro _
        rfl
      · intro _ c c'
        rw [hread, hread]
        rfl

/-- A variable gives a value if its text does. -/
theorem isSome_bind_text?_iff {name : String} {read : String → Option α} :
    ((env.text? name).bind read).isSome = true ↔
      ∃ s a, env.text? name = some s ∧ read s = some a := by
  simp only [Option.isSome_iff_exists, Option.bind_eq_some_iff]
  exact exists_comm

theorem isSome_verify?_iff :
    env.verify?.isSome = true ↔
      env.flagOf? "RESTAPI_INSECURE" = some true ∨ ∃ path, env.text? "RESTAPI_CACERT" = some path := by
  rw [verify?]
  by_cases hflag : env.flagOf? "RESTAPI_INSECURE" = some true
  · rw [if_pos hflag]
    exact ⟨fun _ => Or.inl hflag, fun _ => rfl⟩
  · rw [if_neg hflag, Option.isSome_map, Option.isSome_iff_exists]
    exact ⟨Or.inr, fun h => h.resolve_left hflag⟩

/-- A text that is read as a flag is ASCII but for the blanks around it. -/
theorem ascii_of_flag? {s : String} {b : Bool} (h : flag? s = some b) :
    ∀ c ∈ Text.trim s.toList, c.toNat < 0x80 := by
  have hword : String.ofList (Text.lower (Text.trim s.toList)) ∈ yesWords ++ noWords := by
    rw [flag?] at h
    split at h
    next hyes => exact List.mem_append_left _ (List.contains_iff_mem.mp hyes)
    next =>
      split at h
      next hno => exact List.mem_append_right _ (List.contains_iff_mem.mp hno)
      next => cases h
  have hwords : ∀ w ∈ yesWords ++ noWords,
      w.toList.all (fun d => decide (d.toNat < 0x80 ∧ d ≠ 'k')) = true := by decide
  refine Text.ascii_of_lower fun d hd => ?_
  have hall := hwords _ hword
  rw [String.toList_ofList] at hall
  exact of_decide_eq_true (List.all_eq_true.mp hall d hd)

/-- Which settings an environment overrides: each exactly if its variable has a value that its
setting takes. -/
structure Governs (env : Environment) : Prop where
  /-- Every text is a user agent, or says that there is none. -/
  userAgent : env.Overrides (·.session.userAgent) ↔
    ∃ agent, env.text? "RESTAPI_USER_AGENT" = some agent
  /-- The text is a redirect policy. -/
  redirect : env.Overrides (·.session.redirect) ↔
    ∃ s policy, env.text? "RESTAPI_REDIRECT" = some s ∧ RedirectPolicy.ofText? s = some policy
  /-- The text is a number of seconds. -/
  timeoutSecs : env.Overrides (·.session.timeoutSecs) ↔
    ∃ s n, env.text? "RESTAPI_TIMEOUT" = some s ∧ Text.unsigned? UInt64.size s.toList = some n
  /-- The text is a word for yes or no. -/
  strict : env.Overrides (·.discovery.strict) ↔
    ∃ s b, env.text? "RESTAPI_STRICT" = some s ∧ flag? s = some b
  /-- And so here. -/
  workaroundUrlBug : env.Overrides (·.discovery.workaroundUrlBug) ↔
    ∃ s b, env.text? "RESTAPI_WORKAROUND_URL_BUG" = some s ∧ flag? s = some b
  /-- Every text is a path of certificates, but the word for no is not enough. -/
  verify : env.Overrides (·.session.verify) ↔
    env.flagOf? "RESTAPI_INSECURE" = some true ∨ ∃ path, env.text? "RESTAPI_CACERT" = some path
  /-- Nor is it for whether servers are verified at all. -/
  disabled : env.Overrides (fun c => decide (c.session.verify = .disabled)) ↔
    env.flagOf? "RESTAPI_INSECURE" = some true ∨ ∃ path, env.text? "RESTAPI_CACERT" = some path
  /-- Without a path and a yes the file decides about verification. -/
  shows : env.flagOf? "RESTAPI_INSECURE" ≠ some true → env.text? "RESTAPI_CACERT" = none →
    ∀ c : Config, (c.withEnvironment env).session.verify = c.session.verify

theorem governs (env : Environment) : env.Governs := by
  constructor
  case userAgent =>
    rw [overrides_iff (fun _ => rfl) ⟨{}, { session := { userAgent := none } }, by decide⟩]
    rw [userAgent?, Option.isSome_map, Option.isSome_iff_exists]
  case redirect =>
    rw [overrides_iff (fun _ => rfl) ⟨{}, { session := { redirect := .never } }, by decide⟩]
    exact isSome_bind_text?_iff
  case timeoutSecs =>
    rw [overrides_iff (fun _ => rfl) ⟨{}, { session := { timeoutSecs := some 0 } }, by decide⟩,
      Option.isSome_map, timeoutSecs?, Option.isSome_map]
    exact isSome_bind_text?_iff
  case strict =>
    rw [overrides_iff (fun _ => rfl) ⟨{}, { discovery := { strict := false } }, by decide⟩]
    exact isSome_bind_text?_iff
  case workaroundUrlBug =>
    rw [overrides_iff (fun _ => rfl) ⟨{}, { discovery := { workaroundUrlBug := false } }, by decide⟩]
    exact isSome_bind_text?_iff
  case verify =>
    rw [overrides_iff (fun _ => rfl) ⟨{}, { session := { verify := .disabled } }, by decide⟩]
    exact isSome_verify?_iff
  case disabled =>
    have hread (c : Config) : decide ((c.withEnvironment env).session.verify = .disabled) =
        (env.verify?.map fun v => decide (v = .disabled)).getD
          (decide (c.session.verify = .disabled)) := by
      rw [Config.withEnvironment]
      cases env.verify? <;> rfl
    rw [overrides_iff hread ⟨{}, { session := { verify := .disabled } }, by decide⟩,
      Option.isSome_map]
    exact isSome_verify?_iff
  case shows =>
    intro hflag hcacert c
    have hverify : env.verify? = none := by
      rw [verify?, if_neg hflag, hcacert]
      rfl
    rw [Config.withEnvironment, hverify]
    rfl

/-- The word for no is well formed, and yet a file that turns verification off shows through. -/
theorem not_overrides_insecure :
    let env : Environment := fun name =>
      if name = "RESTAPI_INSECURE" then some (Utf8.encode "false") else none
    let off : Config := { session := { verify := .disabled } }
    env.flagOf? "RESTAPI_INSECURE" = some false ∧
      (({} : Config).withEnvironment env).session.verify = .enabled ∧
      (off.withEnvironment env).session.verify = .disabled ∧
      ¬ env.Overrides fun c => decide (c.session.verify = .disabled) := by
  intro env off
  have hon : (({} : Config).withEnvironment env).session.verify = .enabled := by decide +kernel
  have hoff : (off.withEnvironment env).session.verify = .disabled := by decide +kernel
  refine ⟨by decide +kernel, hon, hoff, fun h => ?_⟩
  have hsame := h {} off
  dsimp only at hsame
  rw [hon, hoff] at hsame
  exact absurd hsame (by decide)

end VersionedApi.Environment
