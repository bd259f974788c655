import Mathlib.Data.Bool.AllAny
import VersionedApi.Config.Environment
import VersionedApi.Proofs.Text.Composition
import VersionedApi.Proofs.Text.Numeral
import VersionedApi.Proofs.Text.Trim
import VersionedApi.Proofs.Text.Utf8

/-!
# The texts of redirect policies

The texts that spell a redirect policy form a small language (`RedirectPolicy.Spells`): two sets of
words, and the numerals of the numbers up to the largest limit, with blanks around them and in any
letter case.  Reading accepts this language and no other text (`ofText?_eq_some_iff`), and the
policy that it gives is the one that a value of JSON stands for.

The environment has the policy as such a text, so its variable counts if and only if it belongs to
the language.
-/

namespace VersionedApi

namespace RedirectPolicy

open VersionedApi.Text

/-- A text in small letters, without the blanks around it. -/
def word (s : String) : String := String.ofList (lower (trim s.toList))

/-- The policy that a text spells. -/
inductive Spells (s : String) : RedirectPolicy → Prop where
  /-- A word for all redirects. -/
  | unlimited (h : word s = "true" ∨ word s = "yes" ∨ word s = "forever") : Spells s .unlimited
  /-- A word for none. -/
  | never (h : word s = "false" ∨ word s = "no" ∨ word s = "never") : Spells s .never
  /-- A number of redirects, with a plus sign in front or without. -/
  | limit {n : Nat} {ds : List Char} (hds : Numeral n ds) (hn : n ≤ 4294967295)
    (h : (word s).toList = ds ∨ (word s).toList = '+' :: ds) : Spells s (.limit (UInt32.ofNat n))

theorem contains_unlimitedWords {w : String} :
    unlimitedWords.contains w = true ↔ w = "true" ∨ w = "yes" ∨ w = "forever" := by
  simp [unlimitedWords]

theorem contains_neverWords {w : String} :
    neverWords.contains w = true ↔ w = "false" ∨ w = "no" ∨ w = "never" := by
  simp [neverWords]

/-- No numeral is one of the words: each of these holds a letter. -/
theorem contains_words_of_numeral {n : Nat} {ds : List Char} (hds : Numeral n ds) {w : String}
    (h : w.toList = ds ∨ w.toList = '+' :: ds) :
    unlimitedWords.contains w = false ∧ neverWords.contains w = false := by
  have hletter : ∀ w ∈ unlimitedWords ++ neverWords, ∃ c ∈ w.toList, c ≠ '+' ∧ isDigit c = false := by
    simp only [← List.any_iff_exists_prop]
    decide
  have hdigits := (numeral_iff.mp hds).2.1
  have hw : w ∉ unlimitedWords ++ neverWords := by
    intro hmem
    obtain ⟨c, hc, hplus, hdigit⟩ := hletter w hmem
    have hc : c ∈ ds := by
      rcases h with h | h
      · exact h ▸ hc
      · rw [h] at hc
        exact (List.mem_cons.mp hc).resolve_left hplus
    exact absurd (hdigits c hc) (by simp [hdigit])
  rw [List.mem_append, not_or] at hw
  simpa using hw

theorem ofText?_eq_some_iff {s : String} {p : RedirectPolicy} : ofText? s = some p ↔ Spells s p := by
  have hread : ofText? s =
      if unlimitedWords.contains (word s) then some .unlimited
      else if neverWords.contains (word s) then some .never
      else (unsigned? UInt32.size (word s).toList).map fun n => .limit (UInt32.ofNat n) := by
    rw [word, String.toList_ofList]
    rfl
  rw [hread]
  constructor
  · intro h
    split at h
    next hu =>
      cases h
      exact .unlimited (contains_unlimitedWords.mp hu)
    next =>
      split at h
      next hn =>
        cases h
        exact .never (contains_neverWords.mp hn)
      next =>
        obtain ⟨n, hn, rfl⟩ := Option.map_eq_some_iff.mp h
        obtain ⟨hlt, ds, hds, hword⟩ := unsigned?_eq_some_iff.mp hn
        exact .limit hds (Nat.le_of_lt_succ hlt) hword
  · intro h
    cases h with
    | unlimited h => rw [if_pos (contains_unlimitedWords.mpr h)]
    | never h =>
        have hnot : unlimitedWords.contains (word s) = false := by
          rcases h with h | h | h <;> rw [h] <;> rfl
        rw [hnot, if_neg Bool.false_ne_true, if_pos (contains_neverWords.mpr h)]
    | limit hds hn hword =>
        obtain ⟨hunlimited, hnever⟩ := contains_words_of_numeral hds hword
        rw [hunlimited, hnever, if_neg Bool.false_ne_true, if_neg Bool.false_ne_true,
          unsigned?_eq_some_iff.mpr ⟨Nat.lt_succ_of_le hn, _, hds, hword⟩]
        rfl

theorem parse_eq_ok_iff {s : String} {p : RedirectPolicy} : parse s = .ok p ↔ Spells s p := by
  rw [← ofText?_eq_some_iff, parse]
  cases ofText? s with
  | none => exact ⟨fun h => (nomatch h), fun h => (nomatch h)⟩
  | some p' => exact ⟨fun h => congrArg some (Except.ok.inj h), fun h => congrArg _ (Option.some.inj h)⟩

theorem parse_eq_error {s : String} (h : ∀ p, ¬ Spells s p) :
    parse s = .error ("Invalid redirect policy: " ++ s) := by
  have hnone : ofText? s = none :=
    Option.eq_none_iff_forall_ne_some.mpr fun p hp => h p (ofText?_eq_some_iff.mp hp)
  rw [parse, hnone]

/-- A text that spells a policy is ASCII but for the blanks around it, whatever has a lower case. -/
theorem ascii_of_spells {s : String} {p : RedirectPolicy} (h : Spells s p) :
    ∀ c ∈ trim s.toList, c.toNat < 0x80 := by
  have hword {w : String} (hw : w ∈ unlimitedWords ++ neverWords) :
      ∀ d ∈ w.toList, d.toNat < 0x80 ∧ d ≠ 'k' := by
    have hwords : ∀ w ∈ unlimitedWords ++ neverWords,
        w.toList.all (fun d => decide (d.toNat < 0x80 ∧ d ≠ 'k')) = true := by decide
    exact fun d hd => of_decide_eq_true (List.all_eq_true.mp (hwords w hw) d hd)
  have hlower : lower (trim s.toList) = (word s).toList := (String.toList_ofList).symm
  refine ascii_of_lower fun d hd => ?_
  rw [hlower] at hd
  cases h with
  | unlimited h => exact hword (by rcases h with h | h | h <;> rw [h] <;> decide) d hd
  | never h => exact hword (by rcases h with h | h | h <;> rw [h] <;> decide) d hd
  | limit hds _ h =>
      have hdigit {d : Char} (hd : isDigit d = true) : d.toNat < 0x80 ∧ d ≠ 'k' := by
        rw [isDigit, Bool.and_eq_true, decide_eq_true_eq, decide_eq_true_eq] at hd
        have hnine : d.toNat ≤ 57 := hd.2
        exact ⟨by omega, by rintro rfl; exact absurd hnine (by decide)⟩
      have hdigits := (numeral_iff.mp hds).2.1
      rcases h with h | h
      · exact hdigit (hdigits d (h ▸ hd))
      · rw [h, List.mem_cons] at hd
        rcases hd with rfl | hd
        · decide
        · exact hdigit (hdigits d hd)

/-! ## Texts without blanks -/

/-- A text of visible ASCII characters has only its capitals changed. -/
theorem word_of_visible {s : String} (h : ∀ c ∈ s.toList, 0x20 < c.toNat ∧ c.toNat < 0x7F) :
    word s = String.ofList (s.toList.map Char.toLower) := by
  have htrim : trim s.toList = s.toList :=
    trimBy_eq_self fun c hc => isBlank_of_visible (h c hc).1 (h c hc).2
  rw [word, htrim, lower_of_ascii fun c hc => Nat.lt_succ_of_lt (h c hc).2]

/-- The numeral of a number spells it as a limit. -/
theorem spells_decimal {n : Nat} (hn : n ≤ 4294967295) :
    Spells (String.ofList (decimal n)) (.limit (UInt32.ofNat n)) := by
  have hchar : ∀ d < 10, (0x20 < (Nat.digitChar d).toNat ∧ (Nat.digitChar d).toNat < 0x7F) ∧
      (Nat.digitChar d).toLower = Nat.digitChar d := by
    decide
  have hdigit {c : Char} (hc : c ∈ decimal n) :
      (0x20 < c.toNat ∧ c.toNat < 0x7F) ∧ c.toLower = c := by
    obtain ⟨d, hd, rfl⟩ := mem_toDigits (by decide) n c hc
    exact hchar d hd
  have hword : word (String.ofList (decimal n)) = String.ofList (decimal n) := by
    rw [word_of_visible, String.toList_ofList, List.map_congr_left fun c hc => (hdigit hc).2,
      List.map_id']
    rw [String.toList_ofList]
    exact fun c hc => (hdigit hc).1
  exact .limit (numeral_decimal n) hn (Or.inl (by rw [hword, String.toList_ofList]))

/-- A character with a small letter for its lower-case form is visible. -/
theorem visible_of_toLower {c : Char} (h : 0x60 < c.toLower.toNat ∧ c.toLower.toNat < 0x7B) :
    0x20 < c.toNat ∧ c.toNat < 0x7F := by
  by_cases hc : NoCapital c
  · rw [toLower_of_noCapital hc] at h
    omega
  · rw [NoCapital, not_or] at hc
    omega

/-- The truth values are spelled in any letter case. -/
theorem spells_bool {b : Bool} {s : String}
    (h : s.toList.map Char.toLower = (if b then "true" else "false").toList) :
    Spells s (ofBool b) := by
  have hletters (b : Bool) : ∀ c ∈ (if b then "true" else "false").toList,
      0x60 < c.toNat ∧ c.toNat < 0x7B := by
    rw [← List.all_iff_forall_prop]
    revert b
    decide
  have hword : word s = if b then "true" else "false" := by
    rw [word_of_visible, h, String.ofList_toList]
    exact fun c hc => visible_of_toLower (hletters b _ (h ▸ List.mem_map_of_mem hc))
  cases b with
  | false => exact .never (Or.inl hword)
  | true => exact .unlimited (Or.inl hword)

theorem ofJson_int {n : Nat} (hn : n ≤ 4294967295) :
    ofJson (.int n) = .ok (.limit (UInt32.ofNat n)) := by
  have hsize : n < UInt32.size := Nat.lt_succ_of_le hn
  have hrange : (0 ≤ (n : Int) && (n : Int) < UInt32.size) = true := by
    simp only [Bool.and_eq_true, decide_eq_true_eq]
    exact ⟨Int.natCast_nonneg n, Int.ofNat_lt.mpr hsize⟩
  rw [ofJson, if_pos hrange, Int.toNat_natCast]

end RedirectPolicy

/-! ## The policy of the environment -/

namespace Environment

/-- The environment spells a redirect policy. -/
def SpellsRedirect (env : Environment) (p : RedirectPolicy) : Prop :=
  ∃ s, env.text? "RESTAPI_REDIRECT" = some s ∧ RedirectPolicy.Spells s p

theorem redirect?_eq_some_iff {env : Environment} {p : RedirectPolicy} :
    env.redirect? = some p ↔ env.SpellsRedirect p := by
  simp only [redirect?, Option.bind_eq_some_iff, RedirectPolicy.ofText?_eq_some_iff]
  rfl

theorem withEnvironment_redirect_of_spells {env : Environment} {p : RedirectPolicy}
    (h : env.SpellsRedirect p) (c : Config) : (c.withEnvironment env).session.redirect = p := by
  rw [Config.withEnvironment, redirect?_eq_some_iff.mpr h]
  rfl

theorem withEnvironment_redirect_of_not_spells {env : Environment}
    (h : ∀ p, ¬ env.SpellsRedirect p) (c : Config) :
    (c.withEnvironment env).session.redirect = c.session.redirect := by
  have hnone : env.redirect? = none :=
    Option.eq_none_iff_forall_ne_some.mpr fun p hp => h p (redirect?_eq_some_iff.mp hp)
  rw [Config.withEnvironment, hnone]
  rfl

/-- An environment has an effect on the policy of some settings if it spells one. -/
theorem exists_redirect_ne_iff {env : Environment} :
    (∃ c : Config, (c.withEnvironment env).session.redirect ≠ c.session.redirect) ↔
      ∃ p, env.SpellsRedirect p := by
  constructor
  · rintro ⟨c, hchanged⟩
    refine Classical.byContradiction fun hnone => hchanged ?_
    exact withEnvironment_redirect_of_not_spells (not_exists.mp hnone) c
  · rintro ⟨p, hp⟩
    obtain ⟨other, hother⟩ : ∃ other, p ≠ other :=
      ⟨if p = .never then .unlimited else .never, by split <;> simp_all⟩
    refine ⟨{ session := { redirect := other } }, ?_⟩
    rw [withEnvironment_redirect_of_spells hp]
    exact hother

end Environment

namespace RedirectPolicy

open VersionedApi.Text

/-- Reading a text gives the policy that it spells, and refuses a text that spells none in words
that end in the text as it was given.  So the numeral of a number in range is read as the JSON
number is decoded, and the words of the truth values, in any letter case, as these are.  The
environment puts the policy that its variable spells in place of the configured one, and leaves
the configured one if the variable spells none. -/
theorem parse_spells :
    (∀ s p, parse s = .ok p ↔ Spells s p) ∧
    (∀ s, (∀ p, ¬ Spells s p) → parse s = .error ("Invalid redirect policy: " ++ s)) ∧
    (∀ n : Nat, n ≤ 4294967295 →
      parse (String.ofList (decimal n)) = .ok (.limit (UInt32.ofNat n)) ∧
      ofJson (.int n) = .ok (.limit (UInt32.ofNat n))) ∧
    (∀ (b : Bool) (s : String), s.toList.map Char.toLower = (if b then "true" else "false").toList →
      parse s = .ok (if b then .unlimited else .never) ∧
      ofJson (.bool b) = .ok (if b then .unlimited else .never)) ∧
    ∀ env : Environment,
      (∀ (c : Config) (p : RedirectPolicy), env.SpellsRedirect p →
        (c.withEnvironment env).session.redirect = p) ∧
      (∀ c : Config, (∀ p, ¬ env.SpellsRedirect p) →
        (c.withEnvironment env).session.redirect = c.session.redirect) ∧
      ((∃ c : Config, (c.withEnvironment env).session.redirect ≠ c.session.redirect) ↔
        ∃ p, env.SpellsRedirect p) := by
  refine ⟨fun s p => parse_eq_ok_iff, fun s => parse_eq_error, fun n hn => ?_, fun b s h => ?_,
    fun env => ⟨?_, ?_, Environment.exists_redirect_ne_iff⟩⟩
  · exact ⟨parse_eq_ok_iff.mpr (spells_decimal hn), ofJson_int hn⟩
  · exact ⟨parse_eq_ok_iff.mpr (spells_bool h), rfl⟩
  · exact fun c p h => Environment.withEnvironment_redirect_of_spells h c
  · exact fun c h => Environment.withEnvironment_redirect_of_not_spells h c

/-- A limit with blanks, a sign and zeros in front, the largest limit, a sign that makes a text no
policy, a truth value in mixed case, and two environments: one with a word in capitals and one with
the first number that is too large. -/
theorem parse_spells_padded :
    let env (s : String) : Environment := fun name =>
      if name = "RESTAPI_REDIRECT" then some (Utf8.encode s) else none
    let after (s : String) := (({} : Config).withEnvironment (env s)).session.redirect
    (Spells "\u2003+0042\n" (.limit 42) ∧ parse "\u2003+0042\n" = .ok (.limit 42)) ∧
      ((∀ p, ¬ Spells " -1" p) ∧ parse " -1" = .error "Invalid redirect policy:  -1") ∧
      parse (String.ofList (decimal 4294967295)) = .ok (.limit 4294967295) ∧
      ("TrUe".toList.map Char.toLower = "true".toList ∧ parse "TrUe" = .ok .unlimited) ∧
      ((env " NEVER").SpellsRedirect .never ∧ after " NEVER" = .never) ∧
      ((∀ p, ¬ (env "4294967296").SpellsRedirect p) ∧ after "4294967296" = .limit 30) := by
  intro env after
  obtain ⟨hspells, hrefused, hnumber, hbool, henv⟩ := parse_spells
  have hlimit : Spells "\u2003+0042\n" (.limit 42) := (hspells _ _).mp (by decide +kernel)
  have hnone : ∀ p, ¬ Spells " -1" p := by
    intro p hp
    have hok := (hspells _ _).mpr hp
    have herror : parse " -1" = .error "Invalid redirect policy:  -1" := by decide +kernel
    cases hok.symm.trans herror
  have hword : (env " NEVER").SpellsRedirect .never :=
    ⟨" NEVER", by decide +kernel, (hspells _ _).mp (by decide +kernel)⟩
  have hlarge : ∀ p, ¬ (env "4294967296").SpellsRedirect p := by
    rintro p ⟨s, hs, hp⟩
    have htext : (env "4294967296").text? "RESTAPI_REDIRECT" = some "4294967296" := by
      decide +kernel
    cases hs.symm.trans htext
    have hok := (hspells _ _).mpr hp
    have herror : parse "4294967296" = .error "Invalid redirect policy: 4294967296" := by
      decide +kernel
    cases hok.symm.trans herror
  have hcase : "TrUe".toList.map Char.toLower = "true".toList := by decide
  exact ⟨⟨hlimit, (hspells _ _).mpr hlimit⟩, ⟨hnone, hrefused _ hnone⟩,
    (hnumber 4294967295 (Nat.le_refl _)).1, ⟨hcase, (hbool true _ hcase).1⟩,
    ⟨hword, (henv _).1 {} _ hword⟩, hlarge, (henv _).2.1 {} hlarge⟩

end RedirectPolicy

end VersionedApi
