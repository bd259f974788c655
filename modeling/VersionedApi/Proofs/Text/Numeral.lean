import Mathlib.Data.List.Induction
import VersionedApi.Text.Numeral

/-!
# Numerals read back

The numeral of a number holds digits of its base only and has the number as its value
(`foldl_toDigits`), in decimal and in hexadecimal.

A text of one or more digits is a numeral of one number, with zeros in front or without
(`Numeral`).  Reading a natural number accepts these texts and no others, with a plus sign or
without (`unsigned?_eq_some_iff`).
-/

namespace VersionedApi.Text

/-- A numeral holds digits of its base. -/
theorem mem_toDigits {b : Nat} (hb : 1 < b) :
    ∀ n : Nat, ∀ c ∈ Nat.toDigits b n, ∃ d < b, c = Nat.digitChar d := by
  intro n
  induction n using Nat.strongRecOn with
  | ind n ih =>
      intro c hc
      by_cases hn : n < b
      · rw [Nat.toDigits_of_lt_base hn, List.mem_singleton] at hc
        exact ⟨n, hn, hc⟩
      · have hle : b ≤ n := Nat.le_of_not_lt hn
        rw [Nat.toDigits_of_base_le hb hle] at hc
        rcases List.mem_append.mp hc with h | h
        · exact ih (n / b) (Nat.div_lt_self (by omega) hb) c h
        · exact ⟨n % b, Nat.mod_lt n (by omega), List.mem_singleton.mp h⟩

/-- The digits of a numeral, read one after the other, give the number. -/
theorem foldl_toDigits {b : Nat} (hb : 1 < b) (value : Char → Nat)
    (hvalue : ∀ d < b, value (Nat.digitChar d) = d) (n : Nat) :
    (Nat.toDigits b n).foldl (fun m c => m * b + value c) 0 = n := by
  induction n using Nat.strongRecOn with
  | ind n ih =>
      by_cases hn : n < b
      · rw [Nat.toDigits_of_lt_base hn, List.foldl_cons, List.foldl_nil, hvalue n hn, Nat.zero_mul,
          Nat.zero_add]
      · have hle : b ≤ n := Nat.le_of_not_lt hn
        rw [Nat.toDigits_of_base_le hb hle, List.foldl_append,
          ih (n / b) (Nat.div_lt_self (by omega) hb), List.foldl_cons, List.foldl_nil,
          hvalue (n % b) (Nat.mod_lt n (by omega))]
        exact Nat.div_add_mod' n b

theorem isDigit_digitChar : ∀ d < 10, isDigit (Nat.digitChar d) = true := by decide

theorem digitValue_digitChar : ∀ d < 10, digitValue (Nat.digitChar d) = d := by decide

theorem isDigit_of_mem_decimal {n : Nat} {c : Char} (h : c ∈ decimal n) : isDigit c = true := by
  obtain ⟨d, hd, rfl⟩ := mem_toDigits (by decide) n c h
  exact isDigit_digitChar d hd

theorem decimal_ne_nil (n : Nat) : decimal n ≠ [] := Nat.toDigits_ne_nil

theorem decimalValue_decimal (n : Nat) : decimalValue (decimal n) = n :=
  foldl_toDigits (by decide) digitValue digitValue_digitChar n

theorem mem_hexadecimal {n : Nat} {c : Char} (h : c ∈ hexadecimal n) :
    ∃ d < 16, c = Nat.digitChar d :=
  mem_toDigits (by decide) n c h

theorem hexadecimal_ne_nil (n : Nat) : hexadecimal n ≠ [] := Nat.toDigits_ne_nil

/-- A number of sixteen bits has four hexadecimal digits at most. -/
theorem length_hexadecimal_le {n : Nat} (h : n < 65536) : (hexadecimal n).length ≤ 4 :=
  (Nat.length_toDigits_le_iff (by decide) (by decide)).mpr h

/-! ## One or more digits -/

/-- A text of one or more digits, and the number that it writes. -/
inductive Numeral : Nat → List Char → Prop where
  /-- One digit. -/
  | digit {d : Nat} (hd : d < 10) : Numeral d [Nat.digitChar d]
  /-- Digits and one more behind them. -/
  | more {n d : Nat} {ds : List Char} (h : Numeral n ds) (hd : d < 10) :
      Numeral (n * 10 + d) (ds ++ [Nat.digitChar d])

theorem digitValue_lt {c : Char} (h : isDigit c = true) : digitValue c < 10 := by
  obtain ⟨_, hle⟩ := Bool.and_eq_true_iff.mp h
  have hnat : c.toNat ≤ 57 := of_decide_eq_true hle
  rw [digitValue]
  exact Nat.lt_succ_of_le (Nat.sub_le_sub_right hnat 48)

theorem digitChar_digitValue {c : Char} (h : isDigit c = true) :
    Nat.digitChar (digitValue c) = c := by
  obtain ⟨hge, _⟩ := Bool.and_eq_true_iff.mp h
  have hnat : 48 ≤ c.toNat := of_decide_eq_true hge
  have hvalue : digitValue c + 48 = c.toNat := Nat.sub_add_cancel hnat
  have hchar : ∀ d < 10, (Nat.digitChar d).toNat = d + 48 := by decide
  exact Char.toNat_inj.mp ((hchar _ (digitValue_lt h)).trans hvalue)

theorem decimalValue_append (ds : List Char) (c : Char) :
    decimalValue (ds ++ [c]) = decimalValue ds * 10 + digitValue c := by
  rw [decimalValue, List.foldl_append]
  rfl

theorem numeral_iff {n : Nat} {ds : List Char} :
    Numeral n ds ↔ ds ≠ [] ∧ (∀ c ∈ ds, isDigit c = true) ∧ decimalValue ds = n := by
  constructor
  · intro h
    induction h with
    | digit hd =>
        refine ⟨List.cons_ne_nil _ _, List.forall_mem_singleton.mpr (isDigit_digitChar _ hd), ?_⟩
        exact (Nat.zero_add _).trans (digitValue_digitChar _ hd)
    | more h hd ih =>
        obtain ⟨_, hdigits, hvalue⟩ := ih
        refine ⟨List.append_ne_nil_of_right_ne_nil _ (List.cons_ne_nil _ _), ?_, ?_⟩
        · exact List.forall_mem_append.mpr
            ⟨hdigits, List.forall_mem_singleton.mpr (isDigit_digitChar _ hd)⟩
        · rw [decimalValue_append, hvalue, digitValue_digitChar _ hd]
  · rintro ⟨hne, hdigits, rfl⟩
    -- The digit at the end is the last one read, so the induction is from there.
    induction ds using List.reverseRecOn with
    | nil => exact absurd rfl hne
    | append_singleton ds c ih =>
        obtain ⟨hds, hc⟩ := List.forall_mem_append.mp hdigits
        have hc : isDigit c = true := hc c (List.mem_singleton_self c)
        have hlast := digitChar_digitValue hc
        rw [decimalValue_append]
        cases ds with
        | nil =>
            have hone := Numeral.digit (digitValue_lt hc)
            rw [hlast] at hone
            simpa [decimalValue] using hone
        | cons d ds =>
            have hmore := (ih (List.cons_ne_nil d ds) hds).more (digitValue_lt hc)
            rwa [hlast] at hmore

theorem numeral_decimal (n : Nat) : Numeral n (decimal n) :=
  numeral_iff.mpr ⟨decimal_ne_nil n, fun _ hc => isDigit_of_mem_decimal hc, decimalValue_decimal n⟩

/-- A natural number is read from a numeral of it, with a plus sign in front or without. -/
theorem unsigned?_eq_some_iff {bound n : Nat} {cs : List Char} :
    unsigned? bound cs = some n ↔
      n < bound ∧ ∃ ds, Numeral n ds ∧ (cs = ds ∨ cs = '+' :: ds) := by
  have hread (ds : List Char) :
      (if ds.isEmpty || !ds.all isDigit then none
        else if decimalValue ds < bound then some (decimalValue ds) else none) = some n ↔
      n < bound ∧ Numeral n ds := by
    rw [numeral_iff]
    grind
  unfold unsigned?
  rw [hread]
  split
  next rest =>
    have hsign : ¬ Numeral n ('+' :: rest) := fun h =>
      absurd ((numeral_iff.mp h).2.1 '+' List.mem_cons_self) (by decide)
    constructor
    · rintro ⟨hlt, h⟩
      exact ⟨hlt, rest, h, Or.inr rfl⟩
    · rintro ⟨hlt, ds, h, rfl | hds⟩
      · exact absurd h hsign
      · cases hds
        exact ⟨hlt, h⟩
  next hcs =>
    constructor
    · rintro ⟨hlt, h⟩
      exact ⟨hlt, cs, h, Or.inl rfl⟩
    · rintro ⟨hlt, ds, h, rfl | hds⟩
      · exact ⟨hlt, h⟩
      · exact absurd hds (hcs ds)

end VersionedApi.Text
