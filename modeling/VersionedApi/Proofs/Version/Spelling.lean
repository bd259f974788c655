import Mathlib.Data.List.Forall2
import VersionedApi.Proofs.Text.Numeral
import VersionedApi.Proofs.Text.Pieces
import VersionedApi.Version.Basic

/-!
# Numbers spelled by a name

A name spells its components as numerals with points between them, with zeros in front of a numeral,
with letters `v` in front of all and with other characters anywhere (`Spells`).  Reading undoes all
of this: `components_of_spells` says that the components of a version are the numbers that its name
spells, however it spells them, and whether a client names the version or a service.

Numbers are of any size here.  A component is capped at the largest one, by value and not by the
length of its numeral, so zeros in front do no harm.
-/

namespace VersionedApi.ApiVersion

open VersionedApi.Text

/-! ## Spellings -/

/-- How a number is written in a name. -/
inductive Written : Nat → List Char → Prop where
  /-- As its decimal numeral, with zeros in front. -/
  | numeral (zeros n : Nat) : Written n (List.replicate zeros '0' ++ decimal n)
  /-- Zero may be left out. -/
  | omitted : Written 0 []

/-- A text with characters put in anywhere that are no digits and no points. -/
inductive Strewn : List Char → List Char → Prop where
  /-- Nothing. -/
  | nil : Strewn [] []
  /-- A character of the text. -/
  | keep (c : Char) {cs ds : List Char} (h : Strewn cs ds) : Strewn (c :: cs) (c :: ds)
  /-- A character that is put in. -/
  | noise {c : Char} (hdigit : isDigit c = false) (hpoint : c ≠ '.') {cs ds : List Char}
    (h : Strewn cs ds) : Strewn cs (c :: ds)

/-- A name that spells some numbers. -/
inductive Spells (xs : List Nat) (id : String) : Prop where
  /-- Letters `v`, and the numbers with points between them and other characters anywhere. -/
  | intro (letters : Nat) {numerals : List (List Char)} {ds : List Char}
    (hnumerals : List.Forall₂ Written xs numerals)
    (hstrewn : Strewn (['.'].intercalate numerals) ds)
    (hid : id.toList = List.replicate letters 'v' ++ ds)

/-- A version that is described by a name. -/
inductive Named (id : String) : ApiVersion → Prop where
  /-- By a client. -/
  | client (name : String) : Named id (ofClient name id)
  /-- By a service, in an entry with that name. -/
  | server (name : String) (entry : VersionEntry) (url : Option String) (h : entry.id = id) :
    Named id (ofServer name entry url)

/-! ## Numerals -/

theorem decimalValue_zeros (zeros : Nat) (ds : List Char) :
    decimalValue (List.replicate zeros '0' ++ ds) = decimalValue ds := by
  induction zeros with
  | zero => rfl
  | succ zeros ih => exact ih

theorem Written.isDigit_of_mem {n : Nat} {ds : List Char} (h : Written n ds) {c : Char}
    (hc : c ∈ ds) : isDigit c = true := by
  cases h with
  | numeral zeros n =>
      rcases List.mem_append.mp hc with hc | hc
      · rw [List.eq_of_mem_replicate hc]
        rfl
      · exact isDigit_of_mem_decimal hc
  | omitted => cases hc

theorem Written.component_eq {n : Nat} {ds : List Char} (h : Written n ds) :
    component ds = min n largest := by
  cases h with
  | numeral zeros n => rw [component, decimalValue_zeros, decimalValue_decimal]
  | omitted => rfl

theorem map_component_of_written {xs : List Nat} {numerals : List (List Char)}
    (h : List.Forall₂ Written xs numerals) :
    numerals.map component = xs.map fun x => min x largest := by
  induction h with
  | nil => rfl
  | cons h _ ih => rw [List.map_cons, List.map_cons, h.component_eq, ih]

/-- Numerals hold digits only. -/
theorem isDigit_of_written {xs : List Nat} {numerals : List (List Char)}
    (h : List.Forall₂ Written xs numerals) :
    ∀ numeral ∈ numerals, ∀ c ∈ numeral, isDigit c = true := by
  induction h with
  | nil => simp
  | cons h _ ih => exact List.forall_mem_cons.mpr ⟨fun c hc => h.isDigit_of_mem hc, ih⟩

/-! ## Characters that do not count -/

/-- Whether a character of a name counts. -/
def counts (c : Char) : Bool := isDigit c || c == '.'

theorem significant_eq (id : String) : significant id = id.toList.filter counts := rfl

theorem counts_eq_false_iff {c : Char} : counts c = false ↔ isDigit c = false ∧ c ≠ '.' := by
  simp [counts]

theorem Strewn.filter_eq {cs ds : List Char} (h : Strewn cs ds) :
    ds.filter counts = cs.filter counts := by
  induction h with
  | nil => rfl
  | keep c _ ih => rw [List.filter_cons, List.filter_cons, ih]
  | noise hdigit hpoint _ ih =>
      rw [List.filter_cons_of_neg (by simp [counts, hdigit, hpoint]), ih]

/-- Every text is made of its characters that count. -/
theorem strewn_filter (ds : List Char) : Strewn (ds.filter counts) ds := by
  induction ds with
  | nil => exact .nil
  | cons d ds ih =>
      cases hd : counts d with
      | true =>
          rw [List.filter_cons_of_pos hd]
          exact .keep d ih
      | false =>
          rw [List.filter_cons_of_neg (by simp [hd])]
          obtain ⟨hdigit, hpoint⟩ := counts_eq_false_iff.mp hd
          exact .noise hdigit hpoint ih

/-- The letters that are taken off a name do not count. -/
theorem significant_normalize (id : String) : significant (normalize id) = significant id := by
  rw [significant_eq, significant_eq, normalize, String.toList_ofList]
  induction id.toList with
  | nil => rfl
  | cons c cs ih =>
      rw [List.dropWhile_cons]
      split
      next hv =>
        rw [ih, beq_iff_eq.mp hv]
        rfl
      next => rfl

/-- In numbers with points between them every character counts. -/
theorem filter_intercalate_of_written {xs : List Nat} {numerals : List (List Char)}
    (h : List.Forall₂ Written xs numerals) :
    (['.'].intercalate numerals).filter counts = ['.'].intercalate numerals := by
  refine List.filter_eq_self.mpr fun c hc => ?_
  rcases mem_intercalate hc with rfl | ⟨numeral, hnumeral, hc⟩
  · rfl
  · rw [counts, isDigit_of_written h numeral hnumeral c hc, Bool.true_or]

/-- What counts of a name are the numerals that it spells. -/
theorem Spells.exists_written {xs : List Nat} {id : String} (h : Spells xs id) :
    ∃ numerals, List.Forall₂ Written xs numerals ∧
      significant id = ['.'].intercalate numerals := by
  obtain ⟨letters, hnumerals, hstrewn, hid⟩ := h
  refine ⟨_, hnumerals, ?_⟩
  rw [significant_eq, hid, List.filter_append, hstrewn.filter_eq,
    filter_intercalate_of_written hnumerals, List.filter_replicate]
  rfl

theorem Spells.map_component {xs : List Nat} {id : String} (h : Spells xs id) (hxs : xs ≠ []) :
    (splitOn '.' (significant id)).map component = xs.map fun x => min x largest := by
  obtain ⟨numerals, hnumerals, hid⟩ := h.exists_written
  have hne : numerals ≠ [] := by
    rintro rfl
    exact hxs (List.forall₂_nil_right_iff.mp hnumerals)
  have hpoint : ∀ numeral ∈ numerals, '.' ∉ numeral := by
    intro numeral hnumeral hmem
    exact absurd (isDigit_of_written hnumerals numeral hnumeral '.' hmem) (by decide)
  rw [hid, splitOn_intercalate '.' numerals hne hpoint, map_component_of_written hnumerals]

/-! ## Components -/

/-- A list made to have a length has its own members in front and zeros behind them. -/
theorem resize_eq_map_range (xs : List Nat) (length : Nat) :
    resize xs length = (List.range length).map fun i => xs[i]?.getD 0 := by
  refine List.ext_getElem? fun i => ?_
  rw [resize, List.getElem?_take, List.getElem?_map]
  by_cases hi : i < length
  · rw [if_pos hi, List.getElem?_range hi, Option.map_some]
    by_cases hxs : i < xs.length
    · rw [List.getElem?_append_left hxs, List.getElem?_eq_getElem hxs, Option.getD_some]
    · rw [List.getElem?_append_right (by omega), List.getElem?_replicate_of_lt (by omega),
        List.getElem?_eq_none (by omega), Option.getD_none]
  · rw [if_neg hi, List.getElem?_eq_none (by simpa using hi), Option.map_none]

/-- The components are read off the name as it was given. -/
theorem Named.components_withLength {id : String} {v : ApiVersion} (h : Named id v) (n : Nat) :
    (v.withLength n).components =
      resize ((splitOn '.' (significant id)).map component) n := by
  rw [← significant_normalize id]
  cases h with
  | client name => rfl
  | server name entry url h =>
      subst h
      rfl

/-- A place in a list that is counted up to a length. -/
theorem getElem?_map_range_getD (f : Nat → Nat) (n i : Nat) :
    (((List.range n).map f)[i]?).getD 0 = if i < n then f i else 0 := by
  rw [List.getElem?_map]
  by_cases hi : i < n
  · rw [List.getElem?_range hi, if_pos hi]
    rfl
  · rw [List.getElem?_eq_none (by simpa using hi), if_neg hi]
    rfl

/-- The components of a version are the numbers that its name spells, each at most the largest,
as many as the version counts and zero where there is no number; and the first two of them are the
major and the minor component, zero where the version does not count as many. -/
theorem components_of_spells (xs : List Nat) (hxs : xs ≠ []) (id : String) (hid : Spells xs id)
    (v : ApiVersion) (hv : Named id v) (n : Nat) :
    (v.withLength n).components =
        (List.range n).map (fun i => min (xs[i]?.getD 0) 18446744073709551615) ∧
      (v.withLength n).major = (if 0 < n then min (xs[0]?.getD 0) 18446744073709551615 else 0) ∧
      (v.withLength n).minor =
        (if 1 < n then min (xs[1]?.getD 0) 18446744073709551615 else 0) := by
  have hcap (i : Nat) : ((xs.map fun x => min x largest)[i]?).getD 0 =
      min (xs[i]?.getD 0) 18446744073709551615 := by
    rw [List.getElem?_map]
    cases xs[i]? <;> rfl
  have hcomponents : (v.withLength n).components =
      (List.range n).map fun i => min (xs[i]?.getD 0) 18446744073709551615 := by
    rw [hv.components_withLength, hid.map_component hxs, resize_eq_map_range]
    exact List.map_congr_left fun i _ => hcap i
  refine ⟨hcomponents, ?_, ?_⟩
  · rw [major, hcomponents, getElem?_map_range_getD]
  · rw [minor, hcomponents, getElem?_map_range_getD]

/-- The first number is one too large and has zeros in front, the second is left out, a digit of
another script and other characters stand anywhere, and a letter `v` between digits as well. -/
theorem components_of_spells_strewn :
    let xs := [18446744073709551616, 0, 7]
    let id := "vv-00v18446744073709551616 ..٣0beta7"
    let entry : VersionEntry := { id, status := some "stable", links := [], extra := [] }
    xs ≠ [] ∧ Spells xs id ∧ Named id (ofClient "a" id) ∧ Named id (ofServer "b" entry none) ∧
      ((ofClient "a" id).withLength 2).components = [18446744073709551615, 0] ∧
      ((ofServer "b" entry none).withLength 4).components = [18446744073709551615, 0, 7, 0] ∧
      ((ofServer "b" entry none).withLength 1).minor = 0 := by
  intro xs id entry
  have hstrewn : Strewn (['.'].intercalate
      [List.replicate 2 '0' ++ decimal 18446744073709551616, [],
        List.replicate 1 '0' ++ decimal 7]) "-00v18446744073709551616 ..٣0beta7".toList :=
    strewn_filter "-00v18446744073709551616 ..٣0beta7".toList
  have hspells : Spells xs id := .intro 2
    (.cons (.numeral 2 _) (.cons .omitted (.cons (.numeral 1 _) .nil))) hstrewn (by decide +kernel)
  have hclient : Named id (ofClient "a" id) := .client "a"
  have hserver : Named id (ofServer "b" entry none) := .server "b" entry none rfl
  have hxs : xs ≠ [] := List.cons_ne_nil _ _
  obtain ⟨htwo, _⟩ := components_of_spells xs hxs id hspells _ hclient 2
  obtain ⟨hfour, _⟩ := components_of_spells xs hxs id hspells _ hserver 4
  obtain ⟨_, _, hminor⟩ := components_of_spells xs hxs id hspells _ hserver 1
  exact ⟨hxs, hspells, hclient, hserver, htwo, hfour, hminor⟩

end VersionedApi.ApiVersion
