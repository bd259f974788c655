import VersionedApi.Proofs.Version.Matching

/-!
# Pairs that are lost

A key has no mark between its components, so versions with different components can share one as
soon as a component has four digits.  A ranking keeps the later of the two, and a pair that only
the earlier one makes is lost: `matchVersions_collision` is such a case.

Nothing else is lost.  `matchVersions_eq_none_iff_lastBy` says which versions count, and that a
compatible pair is overlooked only if a later version of the same key and of other components
stands behind one of its halves (`Hidden`).  Among versions with one number of components this half
has a component of four digits or more (`Hidden.exists_wide`): a key of three digits for each
component is as short as a key can be, and a longer component makes it longer.
-/

namespace VersionedApi

namespace ApiVersion

open VersionedApi.Text

/-! ## How long a key is -/

theorem length_padded_le_iff (n : Nat) : (padded n).length ≤ 3 ↔ n < 1000 := by
  rw [padded, List.length_leftpad, Nat.max_le, decimal,
    Nat.length_toDigits_le_iff (by decide) (by decide)]
  exact and_iff_right (Nat.le_refl 3)

theorem three_le_length_padded (n : Nat) : 3 ≤ (padded n).length := by
  rw [padded, List.length_leftpad]
  exact Nat.le_max_left 3 _

/-- Every component takes three digits or more. -/
theorem le_length_flatMap_padded (xs : List Nat) :
    3 * xs.length ≤ (xs.flatMap padded).length := by
  induction xs with
  | nil => exact Nat.le_refl 0
  | cons x xs ih =>
      have hx := three_le_length_padded x
      rw [List.flatMap_cons, List.length_append, List.length_cons]
      omega

/-- Components take three digits each only if none of them has more. -/
theorem length_flatMap_padded_le_iff (xs : List Nat) :
    (xs.flatMap padded).length ≤ 3 * xs.length ↔ ∀ n ∈ xs, n < 1000 := by
  induction xs with
  | nil => simp
  | cons x xs ih =>
      have hx := three_le_length_padded x
      have hxs := le_length_flatMap_padded xs
      rw [List.forall_mem_cons, ← ih, ← length_padded_le_iff, List.flatMap_cons,
        List.length_append, List.length_cons]
      omega

/-- Among versions with one number of components, a version without a component of four digits
shares its key only with versions of the same components. -/
theorem Narrow.components_eq {a b : ApiVersion} (ha : a.Narrow) (hlength : a.length = b.length)
    (hkey : a.key = b.key) : a.components = b.components := by
  have htext : a.components.flatMap padded = b.components.flatMap padded :=
    String.ofList_inj.mp hkey
  have hb : b.Narrow := by
    refine (length_flatMap_padded_le_iff b.components).mp ?_
    rw [← htext, length_components, ← hlength, ← length_components]
    exact (length_flatMap_padded_le_iff a.components).mpr ha
  exact (key_eq_iff ha hb).mp hkey

/-! ## Versions that are not considered -/

/-- A version of a list behind which another one of the same key and of other components stands. -/
def Hidden (vs : List ApiVersion) (v : ApiVersion) : Prop :=
  ∃ before between w after, vs = before ++ v :: (between ++ w :: after) ∧ w.key = v.key ∧
    w.components ≠ v.components

/-- The last version of a key has the components of every other version of this key, or hides
it. -/
theorem LastBy.hides {vs : List ApiVersion} {v w : ApiVersion} (hw : LastBy key vs w)
    (hv : v ∈ vs) (hkey : w.key = v.key) : w.components = v.components ∨ Hidden vs v := by
  by_cases hsame : w.components = v.components
  · exact Or.inl hsame
  · obtain ⟨before, after, rfl, hafter⟩ := hw
    have hbefore : v ∈ before := by
      rcases List.mem_append.mp hv with hv | hv
      · exact hv
      · rcases List.mem_cons.mp hv with rfl | hv
        · exact absurd rfl hsame
        · exact absurd hkey.symm (hafter v hv)
    obtain ⟨front, between, rfl⟩ := List.append_of_mem hbefore
    refine Or.inr ⟨front, between, w, after, ?_, hkey, hsame⟩
    rw [List.append_assoc, List.cons_append]

/-- Among versions with one number of components only one with a component of four digits can be
hidden. -/
theorem Hidden.exists_wide {vs : List ApiVersion} {v : ApiVersion} (h : Hidden vs v)
    (hlength : ∀ w ∈ vs, w.length = v.length) : ∃ n ∈ v.components, 1000 ≤ n := by
  obtain ⟨before, between, w, after, rfl, hkey, hother⟩ := h
  refine Classical.byContradiction fun hnone => ?_
  have hv : v.Narrow := fun n hn => Nat.lt_of_not_le fun hle => hnone ⟨n, hn, hle⟩
  have hw : w.length = v.length := hlength w (by simp)
  exact hother (hv.components_eq hw.symm hkey.symm).symm

end ApiVersion

open ApiVersion

/-! ## Lists without a pair -/

/-- No pair is chosen exactly if no server and client are compatible of which each is the last of
its list with its key.  So a compatible pair of the lists is overlooked only if one of its halves is
hidden; if all versions of its list have one number of components, this half then has a component
of four digits or more. -/
theorem matchVersions_eq_none_iff_lastBy (servers clients : List ApiVersion) :
    (matchVersions servers clients = none ↔
      ∀ s c, LastBy key servers s → LastBy key clients c →
        ¬ (s.major = c.major ∧ c.minor ≤ s.minor)) ∧
    (matchVersions servers clients = none →
      ∀ s ∈ servers, ∀ c ∈ clients, s.major = c.major ∧ c.minor ≤ s.minor →
        (Hidden servers s ∧
          ((∀ v ∈ servers, v.length = s.length) → ∃ n ∈ s.components, 1000 ≤ n)) ∨
        (Hidden clients c ∧
          ((∀ v ∈ clients, v.length = c.length) → ∃ n ∈ c.components, 1000 ≤ n))) := by
  have hlast : matchVersions servers clients = none ↔
      ∀ s c, LastBy key servers s → LastBy key clients c → ¬ Compatible s c := by
    rw [matchVersions_eq_none_iff]
    simp only [mem_rank_iff]
    exact ⟨fun h s c hs hc => h s hs c hc, fun h s hs c hc => h s c hs hc⟩
  refine ⟨hlast, fun hnone s hs c hc hcompat => ?_⟩
  obtain ⟨s', hs', hskey⟩ := exists_lastBy (f := key) hs
  obtain ⟨c', hc', hckey⟩ := exists_lastBy (f := key) hc
  rcases hs'.hides hs hskey with hsame | hhidden
  · rcases hc'.hides hc hckey with hcsame | hhidden
    · exact absurd (Compatible.congr hcompat hsame hcsame) (hlast.mp hnone s' c' hs' hc')
    · exact Or.inr ⟨hhidden, hhidden.exists_wide⟩
  · exact Or.inl ⟨hhidden, hhidden.exists_wide⟩

/-- The first server could serve the client, and the second one, which cannot, shares its key. -/
theorem matchVersions_collision :
    let earlier := ofClient "test" "1001.0.100"
    let later := ofClient "test" "100.1000.100"
    let client := ofClient "test" "1001"
    (earlier.major = client.major ∧ client.minor ≤ earlier.minor) ∧ earlier.key = later.key ∧
      matchVersions [earlier, later] [client] = none := by
  decide +kernel

/-- The first server is hidden by the second one, and its first component has four digits. -/
theorem matchVersions_eq_none_iff_lastBy_hidden :
    let earlier := ofClient "test" "1001.0.100"
    let later := ofClient "test" "100.1000.100"
    let client := ofClient "test" "1001"
    matchVersions [earlier, later] [client] = none ∧
      (earlier.major = client.major ∧ client.minor ≤ earlier.minor) ∧
      Hidden [earlier, later] earlier ∧ ∃ n ∈ earlier.components, 1000 ≤ n := by
  intro earlier later client
  have hnone : matchVersions [earlier, later] [client] = none := by decide +kernel
  have hcompat : earlier.major = client.major ∧ client.minor ≤ earlier.minor := by decide +kernel
  have hlengths : ∀ v ∈ [earlier, later], v.length = earlier.length := by decide +kernel
  obtain ⟨_, hlost⟩ := matchVersions_eq_none_iff_lastBy [earlier, later] [client]
  refine ⟨hnone, hcompat, ?_⟩
  rcases hlost hnone earlier (by simp) client (by simp) hcompat with ⟨hhidden, hwide⟩ | ⟨h, _⟩
  · exact ⟨hhidden, hwide hlengths⟩
  · obtain ⟨before, between, w, after, hlist, _⟩ := h
    have htwo := congrArg List.length hlist
    simp only [List.length_append, List.length_cons, List.length_nil] at htwo
    omega

end VersionedApi
