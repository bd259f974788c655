import VersionedApi.Text.Blank
import VersionedApi.Text.Lowercase

/-!
# Texts without what surrounds them

Trimming takes off what was put around a text, if the text neither begins nor ends with it
(`trimBy_between`).  Visible ASCII characters are not blank, so a text of them is trimmed to itself,
and it is lowered letter by letter.

A text whose lower-case form is ASCII was ASCII itself (`ascii_of_lower`): of all other characters
only the Kelvin sign has such a form, and this is a `k`.
-/

namespace VersionedApi.Text

variable {α : Type} {p : α → Bool} {front core back cs : List α}

theorem dropWhile_between (hfront : ∀ c ∈ front, p c = true)
    (hhead : ∀ c, core.head? = some c → p c = false) :
    (front ++ core).dropWhile p = core := by
  rw [List.dropWhile_append_of_pos hfront]
  cases core with
  | nil => rfl
  | cons c core => exact List.dropWhile_cons_of_neg (by simp [hhead c rfl])

theorem dropEndWhile_between (hback : ∀ c ∈ back, p c = true)
    (hlast : ∀ c, core.getLast? = some c → p c = false) :
    dropEndWhile p (core ++ back) = core := by
  rw [dropEndWhile, List.reverse_append, dropWhile_between, List.reverse_reverse]
  · exact fun c hc => hback c (List.mem_reverse.mp hc)
  · intro c hc
    rw [List.head?_reverse] at hc
    exact hlast c hc

/-- What is put around a text is taken off again. -/
theorem trimBy_between (hfront : ∀ c ∈ front, p c = true) (hback : ∀ c ∈ back, p c = true)
    (hhead : ∀ c, core.head? = some c → p c = false)
    (hlast : ∀ c, core.getLast? = some c → p c = false) :
    trimBy p (front ++ (core ++ back)) = core := by
  cases core with
  | nil =>
      have hall : ∀ c ∈ front ++ back, p c = true := List.forall_mem_append.mpr ⟨hfront, hback⟩
      have hdrop := dropWhile_between hall hhead
      rw [List.append_nil] at hdrop
      rw [List.nil_append, trimBy, hdrop]
      rfl
  | cons c core =>
      have hdrop : (front ++ (c :: core ++ back)).dropWhile p = c :: core ++ back :=
        dropWhile_between hfront hhead
      rw [trimBy, hdrop, dropEndWhile_between hback hlast]

/-- A text that holds nothing of what is taken off is left alone. -/
theorem trimBy_eq_self (h : ∀ c ∈ cs, p c = false) : trimBy p cs = cs := by
  have hnone : ∀ c ∈ ([] : List α), p c = true := fun c hc => (nomatch hc)
  have htrim := trimBy_between hnone hnone (fun c hc => h c (List.mem_of_head? hc))
    fun c hc => h c (List.mem_of_getLast? hc)
  rwa [List.append_nil, List.nil_append] at htrim

theorem mem_of_mem_trimBy {c : α} (h : c ∈ trimBy p cs) : c ∈ cs := by
  have hback : c ∈ (cs.dropWhile p).reverse :=
    (List.dropWhile_sublist p).subset (List.mem_reverse.mp h)
  exact (List.dropWhile_sublist p).subset (List.mem_reverse.mp hback)

/-! ## Visible ASCII -/

theorem isBlank_of_visible {c : Char} (hlo : 0x20 < c.toNat) (hhi : c.toNat < 0x7F) :
    isBlank c = false := by
  simp only [isBlank, blanks, CharRanges.contains, List.any_cons, List.any_nil, Bool.or_false,
    Bool.or_eq_false_iff, Bool.and_eq_false_iff, decide_eq_false_iff_not]
  omega

theorem lower_of_ascii {cs : List Char} (h : ∀ c ∈ cs, c.toNat < 0x80) :
    lower cs = cs.map Char.toLower := by
  induction cs with
  | nil => rfl
  | cons c cs ih =>
      obtain ⟨hc, hcs⟩ := List.forall_mem_cons.mp h
      have hchar : lowerChar c = [c.toLower] := if_pos hc
      have ih : cs.flatMap lowerChar = cs.map Char.toLower := ih hcs
      rw [lower, List.flatMap_cons, hchar, ih]
      rfl

/-! ## Capitals outside ASCII -/

/-- The images of a run of capitals are characters outside ASCII, or the run is the Kelvin sign. -/
theorem capitals_images : ∀ run ∈ capitals,
    (0x80 ≤ (run.first : Int) + run.distance ∧ (run.last : Int) + run.distance < 0xD800) ∨
    (0xE000 ≤ (run.first : Int) + run.distance ∧ (run.last : Int) + run.distance < 0x110000) ∨
    (run.first = 0x212A ∧ run.last = 0x212A ∧ run.distance = -8383) := by
  decide +kernel

theorem toNat_ofNat {n : Nat} (h : n < 0xD800 ∨ 0xDFFF < n ∧ n < 0x110000) :
    (Char.ofNat n).toNat = n := by
  have hvalid : n.isValidChar := h
  rw [Char.ofNat, dif_pos hvalid]
  rfl

theorem shift?_capitals {c small : Char} (h : CharRun.shift? capitals c = some small) :
    0x80 ≤ small.toNat ∨ small = 'k' := by
  obtain ⟨run, hrun, rfl⟩ := Option.map_eq_some_iff.mp h
  have hcovers := List.find?_some hrun
  rw [CharRun.covers, Bool.and_eq_true, Bool.and_eq_true, decide_eq_true_eq,
    decide_eq_true_eq] at hcovers
  rcases capitals_images run (List.mem_of_find?_eq_some hrun) with himage | himage | hkelvin
  · rw [toNat_ofNat (by omega)]
    omega
  · rw [toNat_ofNat (by omega)]
    omega
  · obtain ⟨hfirst, hlast, hdistance⟩ := hkelvin
    have hc : c.toNat = 0x212A := by omega
    rw [hc, hdistance]
    exact Or.inr rfl

/-- The lower-case form of a character outside ASCII is one character, outside ASCII again if it is
no `k`, but for the dotted capital I. -/
theorem lowerChar_of_not_ascii {c : Char} (hc : ¬ c.toNat < 0x80) :
    lowerChar c = ['i', Char.ofNat 0x0307] ∨
      ∃ d, lowerChar c = [d] ∧ (0x80 ≤ d.toNat ∨ d = 'k') := by
  rw [lowerChar, if_neg hc]
  split
  next => exact Or.inl rfl
  next =>
    split
    next small hsmall => exact Or.inr ⟨small, rfl, shift?_capitals hsmall⟩
    next => exact Or.inr ⟨c, rfl, Or.inl (Nat.le_of_not_lt hc)⟩

/-- A text whose lower-case form is ASCII, without a `k`, is ASCII. -/
theorem ascii_of_lower {cs : List Char} (h : ∀ d ∈ lower cs, d.toNat < 0x80 ∧ d ≠ 'k') :
    ∀ c ∈ cs, c.toNat < 0x80 := by
  intro c hc
  refine Classical.byContradiction fun hbig => ?_
  have hlower : ∀ d ∈ lowerChar c, d.toNat < 0x80 ∧ d ≠ 'k' :=
    fun d hd => h d (List.mem_flatMap.mpr ⟨c, hc, hd⟩)
  rcases lowerChar_of_not_ascii hbig with hdotted | ⟨d, hsmall, hd⟩
  · have hmark := hlower (Char.ofNat 0x0307) (by simp [hdotted])
    exact absurd hmark.1 (by decide)
  · obtain ⟨hascii, hk⟩ := hlower d (by simp [hsmall])
    exact hd.elim (Nat.not_le_of_lt hascii) hk

end VersionedApi.Text
