import Mathlib.Data.List.Nodup
import Mathlib.Data.List.Sort
import VersionedApi.Proofs.Version.Matching

/-!
# How versions are listed

A match looks at the rankings of its two lists, and a ranking is known from the versions that it
holds: the last one of each key.  So `rank_congr` says that lists with the same last versions have
one ranking, and what is left is about lists: a version behind which one of the same key stands is
not a last one, and can be left out (`lastBy_append_cons`); where all keys differ every version is a
last one, in any order (`lastBy_iff_mem`).

`matchVersions_arranged` is about versions as they are, with all their fields, and not only as far
as `ApiVersion.same` tells them apart.
-/

namespace VersionedApi

namespace ApiVersion

/-! ## The last versions of a list -/

section

variable {β : Type} {f : ApiVersion → β} {v x : ApiVersion}

/-- A version with a later one of its kind can be left out. -/
theorem lastBy_append_cons {after : List ApiVersion} (h : ∃ w ∈ after, f w = f v)
    (before : List ApiVersion) :
    LastBy f (before ++ v :: after) x ↔ LastBy f (before ++ after) x := by
  obtain ⟨w, hw, hwv⟩ := h
  induction before with
  | nil =>
      rw [List.nil_append, List.nil_append, lastBy_cons]
      constructor
      · rintro (hx | ⟨rfl, hlater⟩)
        · exact hx
        · exact absurd hwv (hlater w hw)
      · exact Or.inl
  | cons b before ih =>
      have hlater : (∀ u ∈ before ++ v :: after, f u ≠ f x) ↔ ∀ u ∈ before ++ after, f u ≠ f x := by
        simp only [List.forall_mem_append, List.forall_mem_cons]
        constructor
        · rintro ⟨hbefore, _, hafter⟩
          exact ⟨hbefore, hafter⟩
        · rintro ⟨hbefore, hafter⟩
          exact ⟨hbefore, hwv ▸ hafter w hw, hafter⟩
      rw [List.cons_append, List.cons_append, lastBy_cons, lastBy_cons, hlater, ih]

/-- In a list without two versions of a kind every version is a last one. -/
theorem lastBy_iff_mem {vs : List ApiVersion} (h : (vs.map f).Nodup) : LastBy f vs x ↔ x ∈ vs := by
  constructor
  · exact LastBy.mem
  · intro hx
    obtain ⟨before, after, rfl⟩ := List.append_of_mem hx
    refine ⟨before, after, rfl, fun w hw hwx => ?_⟩
    rw [List.map_append, List.map_cons] at h
    have hafter := (List.nodup_cons.mp (List.Nodup.of_append_right h)).1
    exact hafter (hwx ▸ List.mem_map_of_mem hw)

/-- The order of a list does not matter if no two versions are of a kind. -/
theorem lastBy_perm {vs ws : List ApiVersion} (h : (vs.map f).Nodup) (hperm : ws.Perm vs) :
    LastBy f ws x ↔ LastBy f vs x := by
  have hws : (ws.map f).Nodup := (hperm.map f).nodup_iff.mpr h
  rw [lastBy_iff_mem h, lastBy_iff_mem hws, hperm.mem_iff]

end

/-! ## Rankings -/

/-- Lists with the same last version for each key have the same ranking. -/
theorem rank_congr {vs ws : List ApiVersion} (h : ∀ v, LastBy key vs v ↔ LastBy key ws v) :
    rank vs = rank ws := by
  have hirrefl : Std.Irrefl fun a b : ApiVersion => b.key < a.key :=
    ⟨fun a => String.lt_irrefl a.key⟩
  have hantisymm : Std.Antisymm fun a b : ApiVersion => b.key < a.key :=
    ⟨fun a b hab hba => absurd (String.lt_trans hab hba) (String.lt_irrefl _)⟩
  refine List.Pairwise.eq_of_mem_iff (rank_descending vs) (rank_descending ws) fun v => ?_
  rw [mem_rank_iff, mem_rank_iff, h]

end ApiVersion

open ApiVersion

/-! ## Matches -/

theorem matchVersions_congr {servers servers' clients clients' : List ApiVersion}
    (hservers : ∀ v, LastBy key servers' v ↔ LastBy key servers v)
    (hclients : ∀ v, LastBy key clients' v ↔ LastBy key clients v) :
    matchVersions servers' clients' = matchVersions servers clients := by
  rw [matchVersions, matchVersions, rank_congr hservers, rank_congr hclients]

/-- A match is decided by the last version of each key in the two lists.  So a version behind which
one of the same key stands in its list can be left out, and a list in which all keys differ can be
put in any order. -/
theorem matchVersions_arranged (servers clients : List ApiVersion) :
    (∀ servers' clients' : List ApiVersion,
      (∀ v, LastBy key servers' v ↔ LastBy key servers v) →
      (∀ v, LastBy key clients' v ↔ LastBy key clients v) →
        matchVersions servers' clients' = matchVersions servers clients) ∧
    (∀ before v after, (∃ w ∈ after, w.key = v.key) →
      (servers = before ++ v :: after →
        matchVersions (before ++ after) clients = matchVersions servers clients) ∧
      (clients = before ++ v :: after →
        matchVersions servers (before ++ after) = matchVersions servers clients)) ∧
    ((servers.map key).Nodup → ∀ servers' : List ApiVersion, servers'.Perm servers →
      matchVersions servers' clients = matchVersions servers clients) ∧
    ((clients.map key).Nodup → ∀ clients' : List ApiVersion, clients'.Perm clients →
      matchVersions servers clients' = matchVersions servers clients) := by
  refine ⟨fun _ _ => matchVersions_congr, fun before v after hlater => ⟨?_, ?_⟩, ?_, ?_⟩
  · rintro rfl
    exact matchVersions_congr (fun _ => (lastBy_append_cons hlater before).symm) fun _ => Iff.rfl
  · rintro rfl
    exact matchVersions_congr (fun _ => Iff.rfl) fun _ => (lastBy_append_cons hlater before).symm
  · intro hkeys servers' hperm
    exact matchVersions_congr (fun _ => lastBy_perm hkeys hperm) fun _ => Iff.rfl
  · intro hkeys clients' hperm
    exact matchVersions_congr (fun _ => Iff.rfl) fun _ => lastBy_perm hkeys hperm

/-- The first server has the key of the last one and another name; without it all keys differ, and
both lists are turned round. -/
theorem matchVersions_arranged_renamed :
    let early := ofClient "early" "v3.1"
    let late := ofClient "late" "3.1.0"
    let other := ofClient "other" "2.7"
    let clients := [ofClient "new" "3", ofClient "old" "2"]
    (∃ w ∈ [other, late], w.key = early.key) ∧ ([other, late].map key).Nodup ∧
      (clients.map key).Nodup ∧
      matchVersions [early, other, late] clients = some ⟨late, ofClient "new" "3"⟩ ∧
      matchVersions [other, late] clients = matchVersions [early, other, late] clients ∧
      matchVersions [late, other] clients.reverse = matchVersions [other, late] clients := by
  intro early late other clients
  have hlater : ∃ w ∈ [other, late], w.key = early.key := ⟨late, by simp, by decide⟩
  have hservers : ([other, late].map key).Nodup := by decide
  have hclients : (clients.map key).Nodup := by decide
  obtain ⟨_, hleft, _, _⟩ := matchVersions_arranged [early, other, late] clients
  obtain ⟨_, _, hturned, _⟩ := matchVersions_arranged [other, late] clients
  obtain ⟨_, _, _, hturned'⟩ := matchVersions_arranged [late, other] clients
  have hreversed := hturned' hclients clients.reverse (List.reverse_perm clients)
  have hswapped := hturned hservers [late, other] (List.Perm.swap other late [])
  exact ⟨hlater, hservers, hclients, by decide +kernel,
    (hleft [] early [other, late] hlater).1 rfl, hreversed.trans hswapped⟩

end VersionedApi
