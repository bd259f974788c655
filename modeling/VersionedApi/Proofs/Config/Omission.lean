import VersionedApi.Config.Basic
import VersionedApi.Proofs.Json.Parts

/-!
# Settings that are left out

Settings are written as an object of two sections, each an object of its own settings.  Of such a
value any members may be left out, and members that no setting is called by may be put in
(`Omission.Trims`).  What is then read are the settings that were written, with the defaults for
those that were left out and for nothing else (`Config.ofJson_of_trims`).

Each setting is read back from what it is written as, and looks at the member of its own name only,
so the members of an object can be treated one at a time (`Members.Trimmed.field?_eq`).  A setting
that is written as null is there: it is read as having no value, and not as its default.
-/

namespace VersionedApi

open Json

/-! ## Settings one by one -/

theorem RedirectPolicy.ofJson_toJson (p : RedirectPolicy) : ofJson p.toJson = .ok p := by
  cases p with
  | never => rfl
  | unlimited => rfl
  | limit hops =>
      have hsize : (hops.toNat : Int) < UInt32.size := by exact_mod_cast hops.toNat_lt
      rw [toJson, ofJson, if_pos (by simpa using hsize), Int.toNat_natCast, UInt32.ofNat_toNat]

theorem Verification.ofJson_toJson (v : Verification) : ofJson v.toJson = .ok v := by
  cases v <;> rfl

namespace Json

theorem asUInt64_int (n : UInt64) : asUInt64 (.int n.toNat) = .ok n := by
  have hsize : (n.toNat : Int) < UInt64.size := by exact_mod_cast n.toNat_lt
  rw [asUInt64, if_pos (by simpa using hsize), Int.toNat_natCast, UInt64.ofNat_toNat]

/-- An optional number, null if there is none. -/
def ofUInt64? (n? : Option UInt64) : Json := (n?.map fun n => Json.int n.toNat).getD .null

theorem asOptional_ofUInt64? (n? : Option UInt64) : asOptional asUInt64 (ofUInt64? n?) = .ok n? :=
  asOptional_map asUInt64_int (fun _ h => nomatch h) n?

theorem asText_str (s : String) : asText (.str s) = .ok s := rfl

theorem asOptional_ofText? (text? : Option String) :
    asOptional asText (ofText? text?) = .ok text? := by
  rw [ofText?_eq]
  exact asOptional_map asText_str (fun _ h => nomatch h) text?

end Json

/-! ## Members left out -/

/-- What is left of the members of an object: of the names that are known those of `removed` are
gone and the others have the value that they had, and under all other names there may be
anything. -/
structure Members.Trimmed (known removed : List String) (ms ms' : Members) : Prop where
  /-- A member that is left out is not there. -/
  gone : ∀ name ∈ known, name ∈ removed → ms'.get? name = none
  /-- Every other one is as before. -/
  kept : ∀ name ∈ known, name ∉ removed → ms'.get? name = ms.get? name

theorem Members.trimmed_nil (known : List String) (ms : Members) : Trimmed known [] ms ms :=
  ⟨fun _ _ h => (nomatch h), fun _ _ _ => rfl⟩

/-- A field is read back if it is kept, and else there is nothing to read. -/
theorem Members.Trimmed.field?_eq {α : Type} {known removed : List String} {ms ms' : Members}
    {v : Json} (h : Trimmed known removed ms ms') (decode : Json → Decoded α) (a : α)
    (name : String) (hname : name ∈ known) (hget : ms.get? name = some v)
    (hread : decode v = .ok a) :
    field? decode name ms' = .ok (if name ∈ removed then none else some a) := by
  by_cases hremoved : name ∈ removed
  · rw [field?, h.gone name hname hremoved, if_pos hremoved]
  · rw [field?, h.kept name hname hremoved, hget, if_neg hremoved]
    dsimp only
    rw [hread]
    rfl

theorem getD_ite {α : Type} (p : Prop) [Decidable p] (a b : α) :
    (if p then none else some a).getD b = if p then b else a := by
  split <;> rfl

/-! ## The settings of sessions -/

namespace SessionConfig

/-- The names of the settings of sessions. -/
def names : List String := ["user_agent", "redirect", "verify", "timeout_secs"]

/-- The settings with the defaults for those of some names. -/
def reset (removed : List String) (c : SessionConfig) : SessionConfig :=
  let base : SessionConfig := {}
  { userAgent := if "user_agent" ∈ removed then base.userAgent else c.userAgent
    redirect := if "redirect" ∈ removed then base.redirect else c.redirect
    verify := if "verify" ∈ removed then base.verify else c.verify
    timeoutSecs := if "timeout_secs" ∈ removed then base.timeoutSecs else c.timeoutSecs }

/-- The members that the settings are written as. -/
def members (c : SessionConfig) : Members :=
  Members.ofList [
    ("user_agent", ofText? c.userAgent),
    ("redirect", c.redirect.toJson),
    ("verify", c.verify.toJson),
    ("timeout_secs", ofUInt64? c.timeoutSecs)]

theorem toJson_eq (c : SessionConfig) : c.toJson = .obj c.members := rfl

theorem get?_members (c : SessionConfig) (name : String) :
    c.members.get? name =
      if name = "timeout_secs" then some (ofUInt64? c.timeoutSecs)
      else if name = "verify" then some c.verify.toJson
      else if name = "redirect" then some c.redirect.toJson
      else if name = "user_agent" then some (ofText? c.userAgent)
      else none := by
  simp only [members, Members.ofList, List.foldl_cons, List.foldl_nil, Members.get?_insert]
  rfl

/-- What is left of the settings is read back. -/
theorem decode_trimmed (surplus : Surplus) {c : SessionConfig} {removed : List String}
    {ms : Members} (h : Members.Trimmed names removed c.members ms) :
    decode surplus (.obj ms) = .ok (c.reset removed) := by
  have hagent := h.field?_eq (asOptional asText) c.userAgent "user_agent" (by decide)
    (c.get?_members _) (asOptional_ofText? c.userAgent)
  have hredirect := h.field?_eq RedirectPolicy.ofJson c.redirect "redirect" (by decide)
    (c.get?_members _) c.redirect.ofJson_toJson
  have hverify := h.field?_eq Verification.ofJson c.verify "verify" (by decide)
    (c.get?_members _) c.verify.ofJson_toJson
  have htimeout := h.field?_eq (asOptional asUInt64) c.timeoutSecs "timeout_secs" (by decide)
    (c.get?_members _) (asOptional_ofUInt64? c.timeoutSecs)
  rw [decode, hredirect, htimeout, hagent, hverify]
  refine congrArg Except.ok ?_
  rw [fill, reset, getD_ite, getD_ite, getD_ite, getD_ite]

end SessionConfig

/-! ## The settings of discovery -/

namespace DiscoveryConfig

/-- The names of the settings of discovery. -/
def names : List String := ["strict", "workaround_url_bug", "placeholder_hosts"]

/-- The settings with the defaults for those of some names. -/
def reset (removed : List String) (c : DiscoveryConfig) : DiscoveryConfig :=
  let base : DiscoveryConfig := {}
  { strict := if "strict" ∈ removed then base.strict else c.strict
    workaroundUrlBug :=
      if "workaround_url_bug" ∈ removed then base.workaroundUrlBug else c.workaroundUrlBug
    placeholderHosts :=
      if "placeholder_hosts" ∈ removed then base.placeholderHosts else c.placeholderHosts }

/-- The members that the settings are written as. -/
def members (c : DiscoveryConfig) : Members :=
  Members.ofList [
    ("strict", .bool c.strict),
    ("workaround_url_bug", .bool c.workaroundUrlBug),
    ("placeholder_hosts", .arr (c.placeholderHosts.map .str))]

theorem toJson_eq (c : DiscoveryConfig) : c.toJson = .obj c.members := rfl

theorem get?_members (c : DiscoveryConfig) (name : String) :
    c.members.get? name =
      if name = "placeholder_hosts" then some (.arr (c.placeholderHosts.map .str))
      else if name = "workaround_url_bug" then some (.bool c.workaroundUrlBug)
      else if name = "strict" then some (.bool c.strict)
      else none := by
  simp only [members, Members.ofList, List.foldl_cons, List.foldl_nil, Members.get?_insert]
  rfl

/-- What is left of the settings is read back. -/
theorem decode_trimmed (surplus : Surplus) {c : DiscoveryConfig} {removed : List String}
    {ms : Members} (h : Members.Trimmed names removed c.members ms) :
    decode surplus (.obj ms) = .ok (c.reset removed) := by
  have hstrict := h.field?_eq asBool c.strict "strict" (by decide) (c.get?_members _) rfl
  have hworkaround := h.field?_eq asBool c.workaroundUrlBug "workaround_url_bug" (by decide)
    (c.get?_members _) rfl
  have hhosts := h.field?_eq (asList asText) c.placeholderHosts "placeholder_hosts" (by decide)
    (c.get?_members _) (asList_map asText_str c.placeholderHosts)
  rw [decode, hhosts, hstrict, hworkaround]
  refine congrArg Except.ok ?_
  rw [fill, reset, getD_ite, getD_ite, getD_ite]

end DiscoveryConfig

/-! ## All settings -/

/-- What is left out of the value of all settings. -/
structure Omission where
  /-- The names of the sections that are left out. -/
  sections : List String := []
  /-- The names of the settings that are left out of the section for sessions, if it is there. -/
  session : List String := []
  /-- The names of the settings that are left out of the section for discovery, if it is there. -/
  discovery : List String := []

/-- What is left of the section of a name, which knows some settings. -/
inductive Omission.TrimsSection (o : Omission) (name : String) (known removed : List String) :
    Option Json → Option Json → Prop where
  /-- Nothing, if the section is left out. -/
  | gone {part : Option Json} (h : name ∈ o.sections) : TrimsSection o name known removed part none
  /-- What is left of its settings. -/
  | kept {ms ms' : Members} (h : name ∉ o.sections) (htrimmed : ms.Trimmed known removed ms') :
    TrimsSection o name known removed (some (.obj ms)) (some (.obj ms'))

/-- What is left of the members of the value of all settings.  Of members that are no sections
nothing is said. -/
structure Omission.Trims (o : Omission) (ms ms' : Members) : Prop where
  /-- The section for sessions. -/
  session : o.TrimsSection "session" SessionConfig.names o.session
    (ms.get? "session") (ms'.get? "session")
  /-- The section for discovery. -/
  discovery : o.TrimsSection "discovery" DiscoveryConfig.names o.discovery
    (ms.get? "discovery") (ms'.get? "discovery")

/-- A section is read back if it is kept, and else there is nothing to read. -/
theorem Omission.TrimsSection.field?_eq {α : Type} {o : Omission} {name : String}
    {known removed : List String} {ms ms' : Members} {part : Option Json}
    (h : o.TrimsSection name known removed part (ms'.get? name)) (decode : Json → Decoded α) (a : α)
    (hget : part = some (.obj ms))
    (hread : ∀ section', ms.Trimmed known removed section' → decode (.obj section') = .ok a) :
    field? decode name ms' = .ok (if name ∈ o.sections then none else some a) := by
  rw [field?]
  generalize ms'.get? name = part' at h
  cases h with
  | gone h => rw [if_pos h]
  | kept h htrimmed =>
      cases hget
      rw [if_neg h]
      dsimp only
      rw [hread _ htrimmed]
      rfl

namespace Config

/-- The settings with the defaults for those that are left out. -/
def reset (o : Omission) (c : Config) : Config :=
  { session := if "session" ∈ o.sections then {} else c.session.reset o.session
    discovery := if "discovery" ∈ o.sections then {} else c.discovery.reset o.discovery }

/-- The members that all settings are written as. -/
def members (c : Config) : Members :=
  Members.ofList [("session", c.session.toJson), ("discovery", c.discovery.toJson)]

theorem toJson_eq (c : Config) : c.toJson = .obj c.members := rfl

theorem get?_members (c : Config) (name : String) :
    c.members.get? name =
      if name = "discovery" then some (.obj c.discovery.members)
      else if name = "session" then some (.obj c.session.members)
      else none := by
  simp only [members, Members.ofList, List.foldl_cons, List.foldl_nil, Members.get?_insert,
    SessionConfig.toJson_eq, DiscoveryConfig.toJson_eq]
  rfl

theorem decode_trimmed (surplus : Surplus) {c : Config} {o : Omission} {ms : Members}
    (h : o.Trims c.members ms) : decode surplus (.obj ms) = .ok (c.reset o) := by
  have hsession := h.session.field?_eq (SessionConfig.decode surplus) (c.session.reset o.session)
    (c.get?_members _) fun _ => SessionConfig.decode_trimmed surplus
  have hdiscovery := h.discovery.field?_eq (DiscoveryConfig.decode surplus)
    (c.discovery.reset o.discovery) (c.get?_members _) fun _ =>
      DiscoveryConfig.decode_trimmed surplus
  rw [decode, hdiscovery, hsession]
  refine congrArg Except.ok ?_
  rw [reset, getD_ite, getD_ite]

/-- Nothing is left out of the value itself. -/
theorem trims_members (c : Config) : Omission.Trims {} c.members c.members := by
  constructor
  case session => exact .kept (List.not_mem_nil) (Members.trimmed_nil _ c.session.members)
  case discovery => exact .kept (List.not_mem_nil) (Members.trimmed_nil _ c.discovery.members)

/-- Whatever is left out of the value of the settings and whatever else is put into it, the settings
are read back, with the defaults for those that were left out and for no others; and so nothing is
lost if nothing is left out. -/
theorem ofJson_of_trims (c : Config) :
    (∀ (o : Omission) (ms ms' : Members), c.toJson = .obj ms → o.Trims ms ms' →
      ofJson (.obj ms') = .ok (c.reset o)) ∧
    ofJson c.toJson = .ok c := by
  constructor
  · intro o ms ms' hc h
    cases hc
    exact decode_trimmed .refused h
  · exact decode_trimmed .refused c.trims_members

/-- The null stays no user agent and the path stays a path although it spells a truth value, beside
members that no setting is called by; a setting of each section is left out, and then both sections
are. -/
theorem ofJson_of_trims_named :
    let c : Config := {
      session := {
        userAgent := none
        redirect := .limit 4294967295
        verify := .bundle "true"
        timeoutSecs := some 18446744073709551615 }
      discovery := { strict := false, workaroundUrlBug := false, placeholderHosts := [] } }
    let o : Omission := { session := ["redirect"], discovery := ["strict"] }
    let none' : Omission := { sections := ["session", "discovery"] }
    let session' : Members := [("proxy", .arr [.null]), ("timeout_secs", .int 18446744073709551615),
      ("user_agent", .null), ("verify", .str "true")]
    let discovery' : Members := [("placeholder_hosts", .arr []), ("retries", .bool true),
      ("workaround_url_bug", .bool false)]
    let ms : Members := [("comment", .str "redirect"), ("discovery", .obj discovery'),
      ("session", .obj session')]
    (o.Trims c.members ms ∧ ofJson (.obj ms) = .ok {
      session := {
        userAgent := none, verify := .bundle "true", timeoutSecs := some 18446744073709551615 }
      discovery := { workaroundUrlBug := false, placeholderHosts := [] } }) ∧
    (none'.Trims c.members [] ∧ ofJson (.obj []) = .ok {}) ∧ ofJson c.toJson = .ok c := by
  intro c o none' session' discovery' ms
  have hsession : c.session.members.Trimmed SessionConfig.names o.session session' :=
    ⟨by decide +kernel, by decide +kernel⟩
  have hdiscovery : c.discovery.members.Trimmed DiscoveryConfig.names o.discovery discovery' :=
    ⟨by decide +kernel, by decide +kernel⟩
  have hms : o.Trims c.members ms :=
    ⟨.kept (by decide) hsession, .kept (by decide) hdiscovery⟩
  have hnone : none'.Trims c.members [] := ⟨.gone (by decide), .gone (by decide)⟩
  obtain ⟨hread, hwhole⟩ := ofJson_of_trims c
  exact ⟨⟨hms, hread o _ ms c.toJson_eq hms⟩, ⟨hnone, hread none' _ [] c.toJson_eq hnone⟩, hwhole⟩

end Config

end VersionedApi
