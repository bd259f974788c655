import VersionedApi.Proofs.Text.Numeral
import VersionedApi.Proofs.Text.Utf8
import VersionedApi.Version.Basic

/-!
# The order of keys

A key writes the components one after the other without a mark between them, so it is read as
numbers only because every component below a thousand takes exactly three digits (`padded_eq`).
Then the texts of two keys compare as the lists of components do, whatever the lengths of the
lists: `key_lt_iff` for the order and `key_eq_iff` for equality.  A component of four digits
breaks both.

A key holds digits only, so it makes no difference whether keys are compared as texts or octet by
octet (`encode_key_lt_iff`).  `key_order` puts this together: the octets of keys are in the order of
the components, and versions count as the same if their components and their statuses are equal.
-/

namespace VersionedApi.ApiVersion

open VersionedApi.Text

/-- No component has more than three digits. -/
def Narrow (v : ApiVersion) : Prop := ∀ n ∈ v.components, n < 1000

/-! ## One component -/

theorem digitChar_lt_iff : ∀ a < 10, ∀ b < 10, (Nat.digitChar a < Nat.digitChar b ↔ a < b) := by
  decide

theorem digitChar_eq_iff : ∀ a < 10, ∀ b < 10, (Nat.digitChar a = Nat.digitChar b ↔ a = b) := by
  decide

/-- A component below a thousand is written with exactly three digits. -/
theorem padded_eq {n : Nat} (h : n < 1000) :
    padded n = [Nat.digitChar (n / 100), Nat.digitChar (n / 10 % 10), Nat.digitChar (n % 10)] := by
  unfold padded decimal
  by_cases h1 : n < 10
  · rw [Nat.toDigits_of_lt_base h1, Nat.div_eq_of_lt (by omega), Nat.div_eq_of_lt h1,
      Nat.mod_eq_of_lt h1]
    rfl
  · rw [Nat.toDigits_of_base_le (by omega) (by omega)]
    by_cases h2 : n < 100
    · rw [Nat.toDigits_of_lt_base (show n / 10 < 10 by omega), Nat.div_eq_of_lt h2,
        Nat.mod_eq_of_lt (show n / 10 < 10 by omega)]
      rfl
    · rw [Nat.toDigits_of_base_le (by omega) (show 10 ≤ n / 10 by omega), Nat.div_div_eq_div_mul,
        Nat.toDigits_of_lt_base (show n / (10 * 10) < 10 by omega)]
      rfl

theorem length_padded {n : Nat} (h : n < 1000) : (padded n).length = 3 := by
  rw [padded_eq h]
  rfl

theorem padded_eq_iff {m n : Nat} (hm : m < 1000) (hn : n < 1000) :
    padded m = padded n ↔ m = n := by
  rw [padded_eq hm, padded_eq hn, List.cons.injEq, List.cons.injEq, List.cons.injEq,
    digitChar_eq_iff _ (by omega) _ (by omega), digitChar_eq_iff _ (by omega) _ (by omega),
    digitChar_eq_iff _ (by omega) _ (by omega)]
  constructor
  · rintro ⟨h100, h10, h1, _⟩
    omega
  · rintro rfl
    exact ⟨rfl, rfl, rfl, rfl⟩

theorem padded_lt_iff {m n : Nat} (hm : m < 1000) (hn : n < 1000) :
    padded m < padded n ↔ m < n := by
  rw [padded_eq hm, padded_eq hn, List.cons_lt_cons_iff, List.cons_lt_cons_iff,
    List.cons_lt_cons_iff, digitChar_lt_iff _ (by omega) _ (by omega),
    digitChar_lt_iff _ (by omega) _ (by omega), digitChar_lt_iff _ (by omega) _ (by omega),
    digitChar_eq_iff _ (by omega) _ (by omega), digitChar_eq_iff _ (by omega) _ (by omega)]
  have hnil : ¬ ([] : List Char) < [] := List.not_lt_nil []
  constructor
  · rintro (h100 | ⟨h100, h10 | ⟨h10, h1 | ⟨_, hlt⟩⟩⟩)
    · omega
    · omega
    · omega
    · exact absurd hlt hnil
  · intro h
    omega

/-! ## All components -/

/-- Lists with fronts of one length compare as the fronts do, and after equal fronts as the rests
do. -/
theorem append_lt_append_iff {α : Type} [LT α] [Std.Irrefl (· < · : α → α → Prop)] :
    ∀ {p q : List α} (r s : List α), p.length = q.length →
      (p ++ r < q ++ s ↔ p < q ∨ p = q ∧ r < s)
  | [], [], r, s, _ => by simp
  | a :: p, b :: q, r, s, h => by
      have ih := append_lt_append_iff (p := p) (q := q) r s (by simpa using h)
      rw [List.cons_append, List.cons_append, List.cons_lt_cons_iff, List.cons_lt_cons_iff, ih,
        List.cons.injEq]
      constructor
      · rintro (hab | ⟨hab, hpq | ⟨hpq, hrs⟩⟩)
        · exact Or.inl (Or.inl hab)
        · exact Or.inl (Or.inr ⟨hab, hpq⟩)
        · exact Or.inr ⟨⟨hab, hpq⟩, hrs⟩
      · rintro ((hab | ⟨hab, hpq⟩) | ⟨⟨hab, hpq⟩, hrs⟩)
        · exact Or.inl hab
        · exact Or.inr ⟨hab, Or.inl hpq⟩
        · exact Or.inr ⟨hab, Or.inr ⟨hpq, hrs⟩⟩

/-- Written components compare as the numbers do. -/
theorem flatMap_padded_lt_iff :
    ∀ {xs ys : List Nat}, (∀ n ∈ xs, n < 1000) → (∀ n ∈ ys, n < 1000) →
      (xs.flatMap padded < ys.flatMap padded ↔ xs < ys)
  | _, [], _, _ => by simp
  | [], y :: ys, _, hy => by
      rw [List.flatMap_cons, padded_eq (hy y List.mem_cons_self)]
      simp
  | x :: xs, y :: ys, hx, hy => by
      have hx' := hx x List.mem_cons_self
      have hy' := hy y List.mem_cons_self
      have ih := flatMap_padded_lt_iff (fun n hn => hx n (List.mem_cons_of_mem x hn))
        (fun n hn => hy n (List.mem_cons_of_mem y hn))
      rw [List.flatMap_cons, List.flatMap_cons,
        append_lt_append_iff _ _ ((length_padded hx').trans (length_padded hy').symm), ih,
        padded_lt_iff hx' hy', padded_eq_iff hx' hy', List.cons_lt_cons_iff]

/-- Written components tell the numbers. -/
theorem flatMap_padded_eq_iff :
    ∀ {xs ys : List Nat}, (∀ n ∈ xs, n < 1000) → (∀ n ∈ ys, n < 1000) →
      (xs.flatMap padded = ys.flatMap padded ↔ xs = ys)
  | [], [], _, _ => by simp
  | [], y :: ys, _, hy => by
      rw [List.flatMap_cons, padded_eq (hy y List.mem_cons_self)]
      simp
  | x :: xs, [], hx, _ => by
      rw [List.flatMap_cons, padded_eq (hx x List.mem_cons_self)]
      simp
  | x :: xs, y :: ys, hx, hy => by
      have hx' := hx x List.mem_cons_self
      have hy' := hy y List.mem_cons_self
      have ih := flatMap_padded_eq_iff (fun n hn => hx n (List.mem_cons_of_mem x hn))
        (fun n hn => hy n (List.mem_cons_of_mem y hn))
      rw [List.flatMap_cons, List.flatMap_cons, List.cons.injEq, ← ih, ← padded_eq_iff hx' hy']
      constructor
      · intro h
        exact List.append_inj h ((length_padded hx').trans (length_padded hy').symm)
      · rintro ⟨hxy, hrest⟩
        rw [hxy, hrest]

theorem length_flatMap_padded {xs : List Nat} (h : ∀ n ∈ xs, n < 1000) :
    (xs.flatMap padded).length = 3 * xs.length := by
  induction xs with
  | nil => rfl
  | cons x xs ih =>
      obtain ⟨hx, hxs⟩ := List.forall_mem_cons.mp h
      rw [List.flatMap_cons, List.length_append, length_padded hx, ih hxs, List.length_cons]
      omega

/-! ## Keys -/

/-- Keys compare as the components do. -/
theorem key_lt_iff {a b : ApiVersion} (ha : a.Narrow) (hb : b.Narrow) :
    a.key < b.key ↔ a.components < b.components := by
  rw [key, key, String.lt_iff, String.toList_ofList, String.toList_ofList]
  exact flatMap_padded_lt_iff ha hb

/-- A key tells the components. -/
theorem key_eq_iff {a b : ApiVersion} (ha : a.Narrow) (hb : b.Narrow) :
    a.key = b.key ↔ a.components = b.components := by
  rw [key, key, String.ofList_inj]
  exact flatMap_padded_eq_iff ha hb

theorem length_components (v : ApiVersion) : v.components.length = v.length := by
  rw [components, resize, List.length_take, List.length_append, List.length_replicate]
  omega

theorem length_key {v : ApiVersion} (h : v.Narrow) : v.key.length = 3 * v.length := by
  rw [key, String.length_ofList, length_flatMap_padded h, length_components]

theorem same_iff {a b : ApiVersion} : a.same b = true ↔ a.key = b.key ∧ a.status = b.status := by
  simp [same]

/-! ## Keys octet by octet -/

theorem isDigit_of_mem_padded {n : Nat} {c : Char} (h : c ∈ padded n) : isDigit c = true := by
  rw [padded, List.leftpad] at h
  rcases List.mem_append.mp h with h | h
  · rw [List.eq_of_mem_replicate h]
    rfl
  · exact isDigit_of_mem_decimal h

theorem toNat_lt_of_isDigit {c : Char} (h : isDigit c = true) : c.toNat < 0x80 := by
  rw [isDigit, Bool.and_eq_true, decide_eq_true_eq, decide_eq_true_eq] at h
  exact Nat.lt_of_le_of_lt h.2 (by decide)

/-- A key is ASCII. -/
theorem toNat_lt_of_mem_key {v : ApiVersion} : ∀ c ∈ v.key.toList, c.toNat < 0x80 := by
  intro c hc
  rw [key, String.toList_ofList] at hc
  obtain ⟨n, _, hc⟩ := List.mem_flatMap.mp hc
  exact toNat_lt_of_isDigit (isDigit_of_mem_padded hc)

/-- Octet by octet keys of any versions compare as they do as texts. -/
theorem encode_key_lt_iff {a b : ApiVersion} :
    Utf8.encode a.key < Utf8.encode b.key ↔ a.key < b.key :=
  Utf8.encode_lt_iff_of_ascii toNat_lt_of_mem_key toNat_lt_of_mem_key

/-! ## Versions in order -/

/-- With components of at most three digits the octets of two keys are in the same order as the
components, of which a beginning comes before the whole; a key takes three digits for each
component; and two versions count as the same exactly if their components and their statuses are
equal. -/
theorem key_order (a b : ApiVersion) (ha : ∀ n ∈ a.components, n < 1000)
    (hb : ∀ n ∈ b.components, n < 1000) :
    ((Utf8.encode a.key < Utf8.encode b.key ↔ a.components < b.components) ∧
      (Utf8.encode a.key = Utf8.encode b.key ↔ a.components = b.components) ∧
      (Utf8.encode b.key < Utf8.encode a.key ↔ b.components < a.components) ∧
      ∀ n rest, b.components = a.components ++ n :: rest →
        Utf8.encode a.key < Utf8.encode b.key) ∧
    (a.key.length = 3 * a.length ∧ b.key.length = 3 * b.length) ∧
    (a.same b = true ↔ a.components = b.components ∧ a.status = b.status) := by
  have hless : Utf8.encode a.key < Utf8.encode b.key ↔ a.components < b.components :=
    encode_key_lt_iff.trans (key_lt_iff ha hb)
  have hgreater : Utf8.encode b.key < Utf8.encode a.key ↔ b.components < a.components :=
    encode_key_lt_iff.trans (key_lt_iff hb ha)
  have hequal : Utf8.encode a.key = Utf8.encode b.key ↔ a.components = b.components :=
    Utf8.encode_inj.trans (key_eq_iff ha hb)
  refine ⟨⟨hless, hequal, hgreater, ?_⟩, ⟨length_key ha, length_key hb⟩, ?_⟩
  · intro n rest hfront
    have hlonger : a.components ++ [] < a.components ++ n :: rest :=
      List.append_left_lt (List.nil_lt_cons n rest)
    rw [List.append_nil] at hlonger
    rw [hless, hfront]
    exact hlonger
  · rw [same_iff, key_eq_iff ha hb]

/-- The first version has fewer components than the second, and the same ones, so it comes first;
the third is the first under another name. -/
theorem key_order_beginning :
    let first := (ofClient "a" "v2.10").withLength 2
    let second := ofClient "b" "2.10"
    let third := (ofClient "c" "2-beta.0010.7").withLength 2
    (∀ n ∈ first.components, n < 1000) ∧ (∀ n ∈ second.components, n < 1000) ∧
      (∀ n ∈ third.components, n < 1000) ∧
      Utf8.encode first.key < Utf8.encode second.key ∧ first.key.length = 6 ∧
      second.key.length = 9 ∧ first.same second = false ∧ first.same third = true := by
  intro first second third
  have hfirst : ∀ n ∈ first.components, n < 1000 := by decide
  have hsecond : ∀ n ∈ second.components, n < 1000 := by decide
  have hthird : ∀ n ∈ third.components, n < 1000 := by decide
  obtain ⟨⟨hless, _⟩, ⟨hsix, hnine⟩, hsame⟩ := key_order first second hfirst hsecond
  obtain ⟨_, _, hsame'⟩ := key_order first third hfirst hthird
  refine ⟨hfirst, hsecond, hthird, hless.mpr (by decide), hsix, hnine, ?_, hsame'.mpr (by decide)⟩
  rw [← Bool.not_eq_true, hsame]
  decide

end VersionedApi.ApiVersion
