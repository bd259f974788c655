import VersionedApi.Http.Header
import VersionedApi.Proofs.Text.Pieces

/-!
# Well-formed headers

Headers are well-formed if each of their names comes once and has a value.  Those are the headers
that can be made by adding one value after the other (`wellFormed_iff`), and putting a value in
place of others keeps them so.  The lines of well-formed headers with one name are the values of
that name (`WellFormed.lines_eq`), so that `values` tells all of them but the order of the names.

The text that shows headers leaves none of them out (`standsIn_shown`).
-/

namespace VersionedApi

namespace HeaderMap

/-- The names of headers, in order. -/
def names (h : HeaderMap) : List HeaderName := h.groups.map Prod.fst

/-- The values of the lines with a name, in order. -/
def lines (h : HeaderMap) (name : HeaderName) : List HeaderValue :=
  (h.toList.filter fun line => line.1 == name).map Prod.snd

/-- Headers whose names come once and have values. -/
structure WellFormed (h : HeaderMap) : Prop where
  /-- No name comes twice. -/
  distinct : h.names.Nodup
  /-- Every name has a value. -/
  filled : ∀ group ∈ h.groups, group.2 ≠ []

section

variable {name : HeaderName} {change : List HeaderValue → List HeaderValue}
  {groups : List (HeaderName × List HeaderValue)}

/-! ## Changes -/

theorem update_of_new (hnew : name ∉ groups.map Prod.fst) :
    update name change groups = groups ++ [(name, change [])] := by
  induction groups with
  | nil => rfl
  | cons group rest ih =>
      obtain ⟨n, vs⟩ := group
      simp only [List.map_cons, List.mem_cons, not_or] at hnew
      rw [update, if_neg (Ne.symm hnew.1), ih hnew.2]
      rfl

theorem update_of_last (hnew : name ∉ groups.map Prod.fst) (vs : List HeaderValue) :
    update name change (groups ++ [(name, vs)]) = groups ++ [(name, change vs)] := by
  induction groups with
  | nil => simp [update]
  | cons group rest ih =>
      obtain ⟨n, ws⟩ := group
      simp only [List.map_cons, List.mem_cons, not_or] at hnew
      rw [List.cons_append, update, if_neg (Ne.symm hnew.1), ih hnew.2]
      rfl

theorem map_fst_update_of_mem (hmem : name ∈ groups.map Prod.fst) :
    (update name change groups).map Prod.fst = groups.map Prod.fst := by
  induction groups with
  | nil => cases hmem
  | cons group rest ih =>
      obtain ⟨n, vs⟩ := group
      rw [update]
      split
      next => rfl
      next hne =>
        rcases List.mem_cons.mp hmem with heq | hmem
        · exact absurd heq.symm hne
        · simp [ih hmem]

theorem mem_update {group : HeaderName × List HeaderValue} (h : group ∈ update name change groups) :
    group ∈ groups ∨ ∃ vs, group.2 = change vs := by
  induction groups with
  | nil =>
      rw [update, List.mem_singleton] at h
      exact Or.inr ⟨[], congrArg Prod.snd h⟩
  | cons first rest ih =>
      obtain ⟨n, vs⟩ := first
      rw [update] at h
      split at h
      next =>
        rcases List.mem_cons.mp h with rfl | h
        · exact Or.inr ⟨vs, rfl⟩
        · exact Or.inl (List.mem_cons_of_mem _ h)
      next =>
        rcases List.mem_cons.mp h with rfl | h
        · exact Or.inl List.mem_cons_self
        · exact (ih h).imp_left (List.mem_cons_of_mem _)

theorem WellFormed.update (hgroups : WellFormed ⟨groups⟩) (name : HeaderName)
    (hchange : ∀ vs, change vs ≠ []) : WellFormed ⟨update name change groups⟩ := by
  have hdistinct := hgroups.distinct
  constructor
  · rw [names] at hdistinct ⊢
    by_cases hmem : name ∈ groups.map Prod.fst
    · rw [map_fst_update_of_mem hmem]
      exact hdistinct
    · rw [update_of_new hmem, List.map_append]
      refine List.nodup_append.mpr ⟨hdistinct, by simp, ?_⟩
      rintro n hn _ (_ | ⟨_, ⟨⟩⟩) rfl
      exact hmem hn
  · intro group hgroup
    rcases mem_update hgroup with hgroup | ⟨vs, hvs⟩
    · exact hgroups.filled group hgroup
    · exact hvs ▸ hchange vs

end

variable {h : HeaderMap}

theorem wellFormed_empty : empty.WellFormed := ⟨List.nodup_nil, fun _ h => nomatch h⟩

theorem WellFormed.insert (hw : h.WellFormed) (name : HeaderName) (value : HeaderValue) :
    (h.insert name value).WellFormed :=
  hw.update name fun _ => List.cons_ne_nil _ _

theorem WellFormed.append (hw : h.WellFormed) (name : HeaderName) (value : HeaderValue) :
    (h.append name value).WellFormed :=
  hw.update name fun vs => List.append_ne_nil_of_right_ne_nil vs (List.cons_ne_nil _ _)

/-- The headers with the values of a list added in turn. -/
def appendAll (h : HeaderMap) (lines : List (HeaderName × HeaderValue)) : HeaderMap :=
  lines.foldl (fun h (name, value) => h.append name value) h

@[simp] theorem appendAll_cons (h : HeaderMap) (line : HeaderName × HeaderValue)
    (lines : List (HeaderName × HeaderValue)) :
    h.appendAll (line :: lines) = (h.append line.1 line.2).appendAll lines := rfl

@[simp] theorem appendAll_append (h : HeaderMap) (front rest : List (HeaderName × HeaderValue)) :
    h.appendAll (front ++ rest) = (h.appendAll front).appendAll rest :=
  List.foldl_append

theorem WellFormed.appendAll (hw : h.WellFormed) (lines : List (HeaderName × HeaderValue)) :
    (h.appendAll lines).WellFormed := by
  induction lines generalizing h with
  | nil => exact hw
  | cons line rest ih => exact ih (hw.append line.1 line.2)

/-! ## Values -/

theorem contains_iff {name : HeaderName} : h.contains name = true ↔ name ∈ h.names := by
  simp [contains, names]

theorem mem_names_insert {name other : HeaderName} {value : HeaderValue} :
    other ∈ (h.insert name value).names ↔ other = name ∨ other ∈ h.names := by
  rw [names, names, insert]
  by_cases hmem : name ∈ h.groups.map Prod.fst
  · rw [map_fst_update_of_mem hmem]
    refine ⟨Or.inr, ?_⟩
    rintro (rfl | hother)
    · exact hmem
    · exact hother
  · rw [update_of_new hmem]
    simp [or_comm]

theorem values_eq_nil_of_notMem {name : HeaderName} (hname : name ∉ h.names) :
    h.values name = [] := by
  obtain ⟨groups⟩ := h
  induction groups with
  | nil => rfl
  | cons group rest ih =>
      simp only [names, List.map_cons, List.mem_cons, not_or] at hname
      rw [values, List.lookup_cons, beq_eq_false_iff_ne.mpr hname.1]
      exact ih hname.2

theorem mem_lines {name : HeaderName} {v : HeaderValue} :
    v ∈ h.lines name ↔ (name, v) ∈ h.toList := by
  simp [lines]

/-- The lines of well-formed headers with a name hold the values of that name. -/
theorem WellFormed.lines_eq (hw : h.WellFormed) (name : HeaderName) :
    h.lines name = h.values name := by
  obtain ⟨groups⟩ := h
  induction groups with
  | nil => rfl
  | cons group rest ih =>
      obtain ⟨n, vs⟩ := group
      have hdistinct := hw.distinct
      rw [names, List.map_cons, List.nodup_cons] at hdistinct
      have ih := ih ⟨hdistinct.2, fun g hg => hw.filled g (List.mem_cons_of_mem _ hg)⟩
      simp only [lines, toList, values] at ih ⊢
      rw [List.flatMap_cons, List.filter_append, List.map_append, ih, List.filter_map]
      by_cases hn : n = name
      · subst hn
        have hrest : (rest.lookup n).getD [] = [] :=
          values_eq_nil_of_notMem (h := ⟨rest⟩) hdistinct.1
        simp [hrest, Function.comp_def]
      · simp [hn, Function.comp_def, List.lookup_cons, beq_eq_false_iff_ne.mpr (Ne.symm hn)]

/-- The names of well-formed headers are those that have values. -/
theorem WellFormed.mem_names_iff (hw : h.WellFormed) {name : HeaderName} :
    name ∈ h.names ↔ h.values name ≠ [] := by
  constructor
  · intro hname hnil
    obtain ⟨group, hgroup, rfl⟩ := List.mem_map.mp hname
    obtain ⟨v, hv⟩ := List.exists_mem_of_ne_nil _ (hw.filled group hgroup)
    have hmem : v ∈ h.values group.1 := by
      rw [← hw.lines_eq, mem_lines]
      exact List.mem_flatMap.mpr ⟨group, hgroup, List.mem_map_of_mem hv⟩
    rw [hnil] at hmem
    cases hmem
  · intro hvalues
    exact Classical.byContradiction fun hname => hvalues (values_eq_nil_of_notMem hname)

/-! ## Headers made of lines -/

theorem appendAll_last {name : HeaderName} {groups : List (HeaderName × List HeaderValue)}
    (hnew : name ∉ groups.map Prod.fst) (vs ws : List HeaderValue) :
    appendAll ⟨groups ++ [(name, vs)]⟩ (ws.map fun v => (name, v)) =
      ⟨groups ++ [(name, vs ++ ws)]⟩ := by
  induction ws generalizing vs with
  | nil => simp [appendAll]
  | cons w ws ih =>
      rw [List.map_cons, appendAll_cons, append, update_of_last hnew, ih]
      simp

/-- The values of a new name are added as its group. -/
theorem appendAll_new {name : HeaderName} {groups : List (HeaderName × List HeaderValue)}
    (hnew : name ∉ groups.map Prod.fst) {vs : List HeaderValue} (hvs : vs ≠ []) :
    appendAll ⟨groups⟩ (vs.map fun v => (name, v)) = ⟨groups ++ [(name, vs)]⟩ := by
  cases vs with
  | nil => exact absurd rfl hvs
  | cons v vs =>
      rw [List.map_cons, appendAll_cons, append, update_of_new hnew, appendAll_last hnew]
      rfl

/-- Behind other groups, groups are made again of their lines. -/
theorem appendAll_toList (before after : List (HeaderName × List HeaderValue))
    (hw : WellFormed ⟨before ++ after⟩) :
    appendAll ⟨before⟩ (toList ⟨after⟩) = ⟨before ++ after⟩ := by
  induction after generalizing before with
  | nil => simp [toList, appendAll]
  | cons group rest ih =>
      have hnew : group.1 ∉ before.map Prod.fst := by
        have hdistinct := hw.distinct
        simp only [names, List.map_append, List.map_cons, List.nodup_append] at hdistinct
        exact fun hmem => hdistinct.2.2 _ hmem _ List.mem_cons_self rfl
      have hfilled : group.2 ≠ [] := hw.filled group (by simp)
      rw [List.append_cons] at hw ⊢
      rw [← ih _ hw, ← appendAll_new hnew hfilled, ← appendAll_append]
      rfl

/-- Headers are well-formed if and only if they can be made by adding values. -/
theorem wellFormed_iff : h.WellFormed ↔ ∃ lines, h = ofList lines := by
  constructor
  · exact fun hw => ⟨h.toList, (appendAll_toList [] h.groups hw).symm⟩
  · rintro ⟨lines, rfl⟩
    exact wellFormed_empty.appendAll lines

end HeaderMap

/-! ## What is shown -/

/-- A printable value without quotes is shown between quotes as it is. -/
theorem HeaderValue.shown_of_text? {v : HeaderValue} {s : String} (hv : v.sensitive = false)
    (hs : v.text? = some s) (hquote : '"' ∉ s.toList) : v.shown = "\"" ++ s ++ "\"" := by
  rw [text?] at hs
  split at hs
  next hall =>
    cases hs
    rw [String.toList_ofList] at hquote
    have hoctet : ∀ b ∈ v.bytes, showOctet b = [Char.ofNat b.toNat] := by
      intro b hb
      have hne : b ≠ 0x22 := by
        rintro rfl
        exact hquote (List.mem_map_of_mem hb)
      rw [showOctet, if_neg hne, if_pos (List.all_eq_true.mp hall b hb)]
    have hoctets : v.bytes.flatMap showOctet = v.bytes.map fun b => Char.ofNat b.toNat := by
      rw [List.map_eq_flatMap, List.flatMap_def, List.flatMap_def, List.map_congr_left hoctet]
    rw [shown, hv, hoctets, ← String.toList_inj]
    simp
  next => cases hs

/-- A header stands in a text that shows headers: its name and what is shown of its value. -/
structure HeaderMap.StandsIn (name : HeaderName) (value : HeaderValue) (text : String) :
    Prop where
  /-- The name and the value stand there together. -/
  line : ("\"" ++ name.text ++ "\": " ++ value.shown).toList <:+: text.toList
  /-- A sensitive value is hidden. -/
  hidden : value.sensitive = true → value.shown = "Sensitive"
  /-- A printable one without quotes stands there as it is. -/
  plain : ∀ s, value.sensitive = false → value.text? = some s → '"' ∉ s.toList →
    value.shown = "\"" ++ s ++ "\""

/-- All headers stand in the text that shows them. -/
theorem HeaderMap.standsIn_shown (h : HeaderMap) :
    ∀ line ∈ h.toList, StandsIn line.1 line.2 h.shown := by
  intro line hline
  constructor
  case line =>
    let lines := h.toList.map fun l => ("\"" ++ l.1.text ++ "\": " ++ l.2.shown).toList
    have htext : h.shown.toList = "\x7b".toList ++ ", ".toList.intercalate lines ++ "\x7d".toList := by
      rw [shown, String.toList_append, String.toList_append, String.toList_intercalate, List.map_map]
      rfl
    have hmem : ("\"" ++ line.1.text ++ "\": " ++ line.2.shown).toList ∈ lines :=
      List.mem_map.mpr ⟨line, hline, rfl⟩
    rw [htext]
    exact (Text.infix_intercalate hmem).trans
      ((List.suffix_append _ _).isInfix.trans (List.prefix_append _ _).isInfix)
  case hidden =>
    intro hsensitive
    rw [HeaderValue.shown, if_pos hsensitive]
  case plain =>
    intro s hsensitive hs hquote
    exact HeaderValue.shown_of_text? hsensitive hs hquote

end VersionedApi
