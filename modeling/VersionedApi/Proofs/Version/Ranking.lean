import VersionedApi.Version.Matching

/-!
# Rankings

A ranking holds its versions in descending order of keys, and of the versions of a list that share
a key it holds the last one and no other: `rank_descending` and `mem_rank_iff`.  So the first
version of a ranking with a property is the highest one with it, which is how
`matchVersions_eq_some_iff` describes the chosen pair.  Nothing here depends on how large the
components are.
-/

namespace VersionedApi.ApiVersion

/-! ## The last of its kind -/

section

variable {β : Type} {f : ApiVersion → β}

/-- A version of a list that no later one agrees with under `f`. -/
def LastBy (f : ApiVersion → β) (vs : List ApiVersion) (v : ApiVersion) : Prop :=
  ∃ before after, vs = before ++ v :: after ∧ ∀ w ∈ after, f w ≠ f v

theorem not_lastBy_nil (v : ApiVersion) : ¬ LastBy f [] v := by
  rintro ⟨before, after, h, _⟩
  cases before with
  | nil => cases h
  | cons _ _ => cases h

theorem lastBy_cons (w : ApiVersion) (vs : List ApiVersion) (v : ApiVersion) :
    LastBy f (w :: vs) v ↔ LastBy f vs v ∨ v = w ∧ ∀ u ∈ vs, f u ≠ f v := by
  constructor
  · rintro ⟨before, after, h, hafter⟩
    cases before with
    | nil =>
        cases h
        exact Or.inr ⟨rfl, hafter⟩
    | cons _ before =>
        cases h
        exact Or.inl ⟨before, after, rfl, hafter⟩
  · rintro (⟨before, after, rfl, hafter⟩ | ⟨rfl, hafter⟩)
    · exact ⟨w :: before, after, rfl, hafter⟩
    · exact ⟨[], vs, rfl, hafter⟩

theorem LastBy.mem {vs : List ApiVersion} {v : ApiVersion} (h : LastBy f vs v) : v ∈ vs := by
  obtain ⟨before, after, rfl, _⟩ := h
  exact List.mem_append_right before List.mem_cons_self

/-- Every version has a last one that agrees with it. -/
theorem exists_lastBy : ∀ {vs : List ApiVersion} {v : ApiVersion}, v ∈ vs →
    ∃ w, LastBy f vs w ∧ f w = f v
  | w :: vs, v, h => by
      by_cases hlater : ∃ u ∈ vs, f u = f v
      · obtain ⟨u, hu, huv⟩ := hlater
        obtain ⟨x, hx, hxu⟩ := exists_lastBy hu
        exact ⟨x, (lastBy_cons w vs x).mpr (Or.inl hx), hxu.trans huv⟩
      · cases List.mem_cons.mp h with
        | inl hvw =>
            refine ⟨v, (lastBy_cons w vs v).mpr (Or.inr ⟨hvw, ?_⟩), rfl⟩
            exact fun u hu huv => hlater ⟨u, hu, huv⟩
        | inr hv => exact absurd ⟨v, hv, rfl⟩ hlater

/-- Only one version is the last one of its kind. -/
theorem LastBy.unique : ∀ {vs : List ApiVersion} {v w : ApiVersion},
    LastBy f vs v → LastBy f vs w → f v = f w → v = w
  | [], v, _, hv, _, _ => absurd hv (not_lastBy_nil v)
  | u :: vs, v, w, hv, hw, h => by
      rcases (lastBy_cons u vs v).mp hv with hv' | ⟨hvu, hv'⟩
      · rcases (lastBy_cons u vs w).mp hw with hw' | ⟨_, hw'⟩
        · exact LastBy.unique hv' hw' h
        · exact absurd h (hw' v hv'.mem)
      · rcases (lastBy_cons u vs w).mp hw with hw' | ⟨hwu, _⟩
        · exact absurd h.symm (hv' w hw'.mem)
        · exact hvu.trans hwu.symm

/-- Two ways to tell versions apart that agree on a list have the same last ones. -/
theorem lastBy_congr {γ : Type} {g : ApiVersion → γ} {vs : List ApiVersion} {v : ApiVersion}
    (h : ∀ a ∈ vs, ∀ b ∈ vs, f a = f b ↔ g a = g b) : LastBy f vs v ↔ LastBy g vs v := by
  constructor
  · rintro ⟨before, after, rfl, hafter⟩
    refine ⟨before, after, rfl, fun w hw hg => hafter w hw ?_⟩
    exact (h w (by simp [hw]) v (by simp)).mpr hg
  · rintro ⟨before, after, rfl, hafter⟩
    refine ⟨before, after, rfl, fun w hw hf => hafter w hw ?_⟩
    exact (h w (by simp [hw]) v (by simp)).mp hf

end

/-! ## Putting one version in -/

/-- Versions in strictly descending order of keys. -/
def Descending (vs : List ApiVersion) : Prop := vs.Pairwise fun a b => b.key < a.key

theorem mem_rankOne (v x : ApiVersion) : ∀ {ws : List ApiVersion}, Descending ws →
    (x ∈ rankOne v ws ↔ x = v ∨ x ∈ ws ∧ x.key ≠ v.key)
  | [], _ => by simp [rankOne]
  | w :: ws, h => by
      obtain ⟨hw, hws⟩ := List.pairwise_cons.mp h
      unfold rankOne
      split
      next hlt =>
        have hne : x ∈ w :: ws → x.key ≠ v.key := by
          intro hx
          rcases List.mem_cons.mp hx with rfl | hx
          · exact String.ne_of_lt hlt
          · exact String.ne_of_lt (String.lt_trans (hw x hx) hlt)
        rw [List.mem_cons]
        exact ⟨Or.imp_right fun hx => ⟨hx, hne hx⟩, Or.imp_right And.left⟩
      next hnlt =>
        split
        next heq =>
          rw [List.mem_cons]
          constructor
          · rintro (hx | hx)
            · exact Or.inl hx
            · exact Or.inr ⟨List.mem_cons_of_mem w hx, heq ▸ String.ne_of_lt (hw x hx)⟩
          · rintro (hx | ⟨hx, hne⟩)
            · exact Or.inl hx
            · rcases List.mem_cons.mp hx with rfl | hx
              · exact absurd heq.symm hne
              · exact Or.inr hx
        next hne =>
          rw [List.mem_cons, mem_rankOne v x hws, List.mem_cons]
          constructor
          · rintro (rfl | hx | ⟨hx, hxv⟩)
            · exact Or.inr ⟨Or.inl rfl, Ne.symm hne⟩
            · exact Or.inl hx
            · exact Or.inr ⟨Or.inr hx, hxv⟩
          · rintro (hx | ⟨hx | hx, hxv⟩)
            · exact Or.inr (Or.inl hx)
            · exact Or.inl hx
            · exact Or.inr (Or.inr ⟨hx, hxv⟩)

theorem rankOne_descending (v : ApiVersion) : ∀ {ws : List ApiVersion}, Descending ws →
    Descending (rankOne v ws)
  | [], _ => List.pairwise_singleton _ v
  | w :: ws, h => by
      obtain ⟨hw, hws⟩ := List.pairwise_cons.mp h
      unfold rankOne
      split
      next hlt =>
        refine List.pairwise_cons.mpr ⟨fun x hx => ?_, h⟩
        rcases List.mem_cons.mp hx with rfl | hx
        · exact hlt
        · exact String.lt_trans (hw x hx) hlt
      next hnlt =>
        split
        next heq => exact List.pairwise_cons.mpr ⟨fun x hx => heq ▸ hw x hx, hws⟩
        next hne =>
          refine List.pairwise_cons.mpr ⟨fun x hx => ?_, rankOne_descending v hws⟩
          rcases (mem_rankOne v x hws).mp hx with rfl | ⟨hx, _⟩
          · exact Std.lt_of_le_of_ne (String.not_lt.mp hnlt) hne
          · exact hw x hx

/-! ## The ranking of a list -/

/-- What a ranking holds after a list was put into it, and that it stays in order. -/
theorem foldl_rankOne (x : ApiVersion) : ∀ (vs : List ApiVersion) {ranked : List ApiVersion},
    Descending ranked →
      Descending (vs.foldl (fun ranked v => rankOne v ranked) ranked) ∧
      (x ∈ vs.foldl (fun ranked v => rankOne v ranked) ranked ↔
        LastBy key vs x ∨ x ∈ ranked ∧ ∀ v ∈ vs, v.key ≠ x.key)
  | [], ranked, h => by
      refine ⟨h, fun hx => Or.inr ⟨hx, by simp⟩, ?_⟩
      rintro (hx | ⟨hx, _⟩)
      · exact absurd hx (not_lastBy_nil x)
      · exact hx
  | v :: vs, ranked, h => by
      obtain ⟨hdesc, hmem⟩ := foldl_rankOne x vs (rankOne_descending v h)
      refine ⟨hdesc, ?_⟩
      rw [List.foldl_cons, hmem, mem_rankOne v x h, lastBy_cons, List.forall_mem_cons]
      constructor
      · rintro (hx | ⟨rfl | ⟨hx, hxv⟩, hvs⟩)
        · exact Or.inl (Or.inl hx)
        · exact Or.inl (Or.inr ⟨rfl, hvs⟩)
        · exact Or.inr ⟨hx, Ne.symm hxv, hvs⟩
      · rintro ((hx | ⟨hx, hvs⟩) | ⟨hx, hxv, hvs⟩)
        · exact Or.inl hx
        · exact Or.inr ⟨Or.inl hx, hvs⟩
        · exact Or.inr ⟨Or.inr ⟨hx, Ne.symm hxv⟩, hvs⟩

theorem rank_descending (vs : List ApiVersion) : Descending (rank vs) := by
  cases vs with
  | nil => exact List.Pairwise.nil
  | cons v vs => exact (foldl_rankOne v (v :: vs) List.Pairwise.nil).1

/-- A ranking holds the last version of every key. -/
theorem mem_rank_iff {vs : List ApiVersion} {x : ApiVersion} : x ∈ rank vs ↔ LastBy key vs x := by
  rw [rank, (foldl_rankOne x vs List.Pairwise.nil).2]
  simp

/-! ## The first version of a ranking -/

/-- What comes before a place of a ranking is higher, so all that is not before it is no higher. -/
theorem Descending.le_of_split {before after : List ApiVersion} {v w : ApiVersion}
    (h : Descending (before ++ v :: after)) (hw : w ∈ before ++ v :: after) (hnot : w ∉ before) :
    w.key ≤ v.key := by
  obtain ⟨_, hrest, _⟩ := List.pairwise_append.mp h
  rcases List.mem_append.mp hw with hw | hw
  · exact absurd hw hnot
  · rcases List.mem_cons.mp hw with rfl | hw
    · exact String.le_refl _
    · exact Std.le_of_lt ((List.pairwise_cons.mp hrest).1 w hw)

/-- Two places of a ranking with keys that are no higher than each other are one. -/
theorem Descending.eq_of_key_eq {vs : List ApiVersion} {v w : ApiVersion} (h : Descending vs)
    (hv : v ∈ vs) (hw : w ∈ vs) (hkey : v.key = w.key) : v = w := by
  induction vs with
  | nil => cases hv
  | cons u us ih =>
      obtain ⟨hu, hus⟩ := List.pairwise_cons.mp h
      rcases List.mem_cons.mp hv with hvu | hv'
      · rcases List.mem_cons.mp hw with hwu | hw'
        · exact hvu.trans hwu.symm
        · exact absurd (hvu ▸ hkey).symm (String.ne_of_lt (hu w hw'))
      · rcases List.mem_cons.mp hw with hwu | hw'
        · exact absurd (hwu ▸ hkey) (String.ne_of_lt (hu v hv'))
        · exact ih hus hv' hw'

/-- The first version of a ranking with a property is the highest one with it. -/
theorem Descending.find?_eq_some_iff {vs : List ApiVersion} (h : Descending vs)
    (p : ApiVersion → Bool) (v : ApiVersion) :
    vs.find? p = some v ↔ v ∈ vs ∧ p v ∧ ∀ w ∈ vs, p w → w.key ≤ v.key := by
  constructor
  · intro hfind
    obtain ⟨hp, before, after, rfl, hbefore⟩ := List.find?_eq_some_iff_append.mp hfind
    refine ⟨by simp, hp, fun w hw hpw => h.le_of_split hw fun hmem => ?_⟩
    exact absurd (hbefore w hmem) (by simp [hpw])
  · rintro ⟨hv, hp, hhighest⟩
    cases hfind : vs.find? p with
    | none => exact absurd hp (List.find?_eq_none.mp hfind v hv)
    | some w =>
        obtain ⟨hpw, before, after, hvs, hbefore⟩ := List.find?_eq_some_iff_append.mp hfind
        have hw : w ∈ vs := List.mem_of_find?_eq_some hfind
        have hvw : v.key ≤ w.key := by
          subst hvs
          refine h.le_of_split hv fun hmem => ?_
          exact absurd (hbefore v hmem) (by simp [hp])
        rw [h.eq_of_key_eq hv hw (String.le_antisymm hvw (hhighest w hw hpw))]

end VersionedApi.ApiVersion
