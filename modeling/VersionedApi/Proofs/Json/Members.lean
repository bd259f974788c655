import Mathlib.Data.List.Sort
import Mathlib.Data.String.Basic
import VersionedApi.Json.Basic

/-!
# Members of an object

The members of an object stand in ascending order of their names, each name once (`Ascending`), and
everything that makes an object keeps them so (`Ascending.insert`, `ascending_ofList`).  So members
are known by their values: two lists of them with the same value under each name are the same
(`Ascending.ext`).

An object is made of members in any order.  Ascending members that are put in last are found again,
and what was there before is found where they have no value (`get?_ofList_append`).
-/

namespace VersionedApi.Members

/-- Members in ascending order of their names, each name once. -/
def Ascending (ms : Members) : Prop := ms.Pairwise fun a b => a.1 < b.1

instance (ms : Members) : Decidable ms.Ascending :=
  inferInstanceAs (Decidable (ms.Pairwise fun a b => a.1 < b.1))

variable {ms ms' : Members} {m : String × Json} {name : String} {value : Json}

/-! ## Making an object -/

theorem mem_insert (h : m ∈ insert name value ms) : m = (name, value) ∨ m ∈ ms := by
  induction ms with
  | nil => exact Or.inl (List.mem_singleton.mp h)
  | cons first rest ih =>
      rw [insert] at h
      split at h
      next => exact List.mem_cons.mp h
      next =>
        split at h
        next =>
          rcases List.mem_cons.mp h with h | h
          · exact Or.inl h
          · exact Or.inr (List.mem_cons_of_mem first h)
        next =>
          rcases List.mem_cons.mp h with rfl | h
          · exact Or.inr List.mem_cons_self
          · exact (ih h).imp_right (List.mem_cons_of_mem first)

theorem Ascending.insert (h : ms.Ascending) (name : String) (value : Json) :
    (Members.insert name value ms).Ascending := by
  induction ms with
  | nil => exact List.pairwise_singleton _ _
  | cons first rest ih =>
      obtain ⟨hfirst, hrest⟩ := List.pairwise_cons.mp h
      rw [Members.insert]
      split
      next hbefore =>
        refine List.pairwise_cons.mpr ⟨fun m hm => ?_, h⟩
        rcases List.mem_cons.mp hm with rfl | hm
        · exact hbefore
        · exact hbefore.trans (hfirst m hm)
      next hnotBefore =>
        split
        next hsame =>
          subst hsame
          exact List.pairwise_cons.mpr ⟨hfirst, hrest⟩
        next hother =>
          refine List.pairwise_cons.mpr ⟨fun m hm => ?_, ih hrest⟩
          rcases mem_insert hm with rfl | hm
          · exact lt_of_le_of_ne (not_lt.mp hnotBefore) (Ne.symm hother)
          · exact hfirst m hm

theorem ascending_ofList (pairs : List (String × Json)) : (ofList pairs).Ascending := by
  have hfold (ms : Members) (h : ms.Ascending) :
      (pairs.foldl (fun ms pair => insert pair.1 pair.2 ms) ms).Ascending := by
    induction pairs generalizing ms with
    | nil => exact h
    | cons pair pairs ih => exact ih _ (h.insert pair.1 pair.2)
  exact hfold [] List.Pairwise.nil

/-! ## Finding members -/

theorem get?_eq_none_of_lt (h : ∀ m ∈ ms, name < m.1) : get? ms name = none :=
  List.lookup_eq_none_iff.mpr fun m hm => by simpa using (h m hm).ne

theorem Ascending.get?_eq_some_iff (h : ms.Ascending) :
    get? ms name = some value ↔ (name, value) ∈ ms := by
  induction ms with
  | nil => exact ⟨fun h => (nomatch h), fun h => (nomatch h)⟩
  | cons first rest ih =>
      obtain ⟨n, v⟩ := first
      obtain ⟨hfirst, hrest⟩ := List.pairwise_cons.mp h
      by_cases hname : name = n
      · subst hname
        have hnone : (name, value) ∉ rest := fun hmem => lt_irrefl name (hfirst _ hmem)
        simp [get?, hnone, eq_comm]
      · have hget : get? ((n, v) :: rest) name = get? rest name := by
          rw [get?, List.lookup_cons, beq_eq_false_iff_ne.mpr hname]
          rfl
        rw [hget, ih hrest]
        simp [hname]

/-- Members with the same values under the same names are the same. -/
theorem Ascending.ext (h : ms.Ascending) (h' : ms'.Ascending)
    (hget : ∀ name, get? ms name = get? ms' name) : ms = ms' := by
  have hirrefl : Std.Irrefl fun a b : String × Json => a.1 < b.1 := ⟨fun a => lt_irrefl a.1⟩
  have hantisymm : Std.Antisymm fun a b : String × Json => a.1 < b.1 :=
    ⟨fun _ _ hab hba => absurd (hab.trans hba) (lt_irrefl _)⟩
  refine List.Pairwise.eq_of_mem_iff h h' fun m => ?_
  rw [← h.get?_eq_some_iff, hget, h'.get?_eq_some_iff]

/-- Of members that are put in last each is found, and under any other name what was there before. -/
theorem get?_ofList_append (pairs : List (String × Json)) (h : ms.Ascending) (name : String) :
    get? (ofList (pairs ++ ms)) name = (get? ms name).or (get? (ofList pairs) name) := by
  have hfold (before : Members) :
      get? (ms.foldl (fun ms pair => insert pair.1 pair.2 ms) before) name =
        (get? ms name).or (get? before name) := by
    induction ms generalizing before with
    | nil => rfl
    | cons first rest ih =>
        obtain ⟨n, v⟩ := first
        obtain ⟨hfirst, hrest⟩ := List.pairwise_cons.mp h
        rw [List.foldl_cons, ih hrest, get?_insert]
        by_cases hname : name = n
        · subst hname
          rw [get?_eq_none_of_lt hfirst]
          simp [get?]
        · simp [get?, List.lookup_cons, beq_eq_false_iff_ne.mpr hname, hname]
  rw [ofList, List.foldl_append]
  exact hfold _

/-! ## Leaving members out -/

theorem Ascending.without (h : ms.Ascending) (names : List String) :
    (Members.without ms names).Ascending :=
  List.Pairwise.filter _ h

theorem mem_without {names : List String} : m ∈ without ms names ↔ m ∈ ms ∧ m.1 ∉ names := by
  simp [without]

theorem Ascending.get?_without (h : ms.Ascending) (names : List String) (name : String) :
    get? (Members.without ms names) name = if name ∈ names then none else get? ms name := by
  refine Option.ext fun value => ?_
  rw [(h.without names).get?_eq_some_iff, mem_without]
  by_cases hname : name ∈ names
  · simp [hname]
  · simp [hname, h.get?_eq_some_iff]

end VersionedApi.Members
