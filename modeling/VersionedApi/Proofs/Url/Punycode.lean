import VersionedApi.Url.Punycode

/-!
# The characters of Punycode

The ASCII form of a label holds ASCII characters of the label, the delimiter and digits
(`mem_encode`).
-/

namespace VersionedApi.Url.Punycode

theorem threshold_le (bias k : Nat) : threshold bias k ≤ 26 := by
  rw [threshold]
  split
  · omega
  · split <;> omega

/-- A number is written with digits. -/
theorem mem_writeNumber (bias k q : Nat) : ∀ c ∈ writeNumber bias k q, ∃ d < 36, c = digit d := by
  fun_induction writeNumber bias k q with
  | case1 k q t hlt =>
      have ht : t ≤ 26 := threshold_le bias k
      intro c hc
      exact ⟨q, by omega, List.mem_singleton.mp hc⟩
  | case2 k q t hge ih =>
      have ht : t ≤ 26 := threshold_le bias k
      have hmod : (q - t) % (36 - t) < 36 - t := Nat.mod_lt _ (by omega)
      intro c hc
      rcases List.mem_cons.mp hc with rfl | hc
      · exact ⟨_, by omega, rfl⟩
      · exact ih c hc

/-- The characters that the form of a label may hold. -/
def Writes (label : List Char) (c : Char) : Prop :=
  (c ∈ label ∧ c.toNat < 0x80) ∨ c = '-' ∨ ∃ d < 36, c = digit d

theorem writes_visit {label : List Char} {basic point : Nat} {w : Writer} {c : Char}
    (hw : ∀ d ∈ w.output, Writes label d) :
    ∀ d ∈ (w.visit basic point c).output, Writes label d := by
  rw [Writer.visit]
  split
  next => exact hw
  next =>
    split
    next =>
      intro d hd
      rcases List.mem_append.mp hd with hd | hd
      · exact hw d hd
      · exact Or.inr (Or.inr (mem_writeNumber _ _ _ d hd))
    next => exact hw

theorem writes_visits {label : List Char} {basic point : Nat} : ∀ (cs : List Char) {w : Writer},
    (∀ d ∈ w.output, Writes label d) →
      ∀ d ∈ (cs.foldl (Writer.visit basic point) w).output, Writes label d
  | [], _, hw => hw
  | c :: cs, _, hw => writes_visits cs (writes_visit (c := c) hw)

theorem writes_place {label : List Char} {basic : Nat} : ∀ (points : List Nat) (next : Nat)
    {w : Writer}, (∀ d ∈ w.output, Writes label d) →
      ∀ d ∈ (Writer.place label basic points next w).output, Writes label d
  | [], _, _, hw => hw
  | point :: points, _, _, hw => by
      rw [Writer.place]
      refine writes_place points (point + 1) ?_
      exact writes_visits label hw

/-- The ASCII form of a label holds ASCII characters of the label, the delimiter and digits. -/
theorem mem_encode {label : List Char} {c : Char} (h : c ∈ encode label) : Writes label c := by
  rw [encode] at h
  refine writes_place _ _ ?_ c h
  intro d hd
  dsimp only at hd
  split at hd
  next => cases hd
  next =>
    rcases List.mem_append.mp hd with hd | hd
    · obtain ⟨hmem, hascii⟩ := List.mem_filter.mp hd
      exact Or.inl ⟨hmem, of_decide_eq_true hascii⟩
    · exact Or.inr (Or.inl (List.mem_singleton.mp hd))

end VersionedApi.Url.Punycode
