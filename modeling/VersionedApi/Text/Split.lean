/-!
# Cutting texts at separators

`splitOn` cuts at every separator and so yields one piece more than there are separators; `cut?`
cuts at the first one only.  `splitOn_intercalate` and `intercalate_splitOn` say that splitting and
joining undo each other.
-/

namespace VersionedApi.Text

/-- The pieces between the members that satisfy `p`; of an empty list the one empty piece. -/
def splitBy {α : Type} (p : α → Bool) : List α → List (List α)
  | [] => [[]]
  | c :: cs =>
      if p c then [] :: splitBy p cs
      else
        match splitBy p cs with
        | [] => [[c]]
        | piece :: pieces => (c :: piece) :: pieces

/-- The pieces between the occurrences of a separator. -/
def splitOn (sep : Char) (cs : List Char) : List (List Char) := splitBy (· == sep) cs

/-- The parts before and after the first member that satisfies `p`. -/
def cutBy? {α : Type} (p : α → Bool) : List α → Option (List α × List α)
  | [] => none
  | c :: cs => if p c then some ([], cs) else (cutBy? p cs).map fun (l, r) => (c :: l, r)

/-- The parts before and after the first occurrence of a separator. -/
def cut? (sep : Char) (cs : List Char) : Option (List Char × List Char) := cutBy? (· == sep) cs

/-- The parts before and after the last occurrence of a separator. -/
def cutLast? (sep : Char) (cs : List Char) : Option (List Char × List Char) :=
  (cut? sep cs.reverse).map fun (r, l) => (l.reverse, r.reverse)

/-! ## Splitting and joining -/

/-- There is a piece in any case. -/
theorem splitBy_ne_nil {α : Type} (p : α → Bool) (cs : List α) : splitBy p cs ≠ [] := by
  cases cs with
  | nil => simp [splitBy]
  | cons c cs =>
      simp only [splitBy]
      split
      · simp
      · split <;> simp

/-- Without separators there is one piece. -/
theorem splitBy_eq_singleton {α : Type} (p : α → Bool) (cs : List α) (h : ∀ c ∈ cs, p c = false) :
    splitBy p cs = [cs] := by
  induction cs with
  | nil => rfl
  | cons c cs ih => simp [splitBy, h c, ih fun d hd => h d (List.mem_cons_of_mem c hd)]

/-- The first separator ends the first piece. -/
theorem splitBy_append {α : Type} (p : α → Bool) (piece rest : List α) (c : α)
    (h : ∀ d ∈ piece, p d = false) (hc : p c = true) :
    splitBy p (piece ++ c :: rest) = piece :: splitBy p rest := by
  induction piece with
  | nil => simp [splitBy, hc]
  | cons d piece ih =>
      simp [splitBy, h d, ih fun e he => h e (List.mem_cons_of_mem d he)]

/-- Splitting undoes joining. -/
theorem splitOn_intercalate (sep : Char) (pieces : List (List Char)) (hne : pieces ≠ [])
    (h : ∀ piece ∈ pieces, sep ∉ piece) :
    splitOn sep ([sep].intercalate pieces) = pieces := by
  induction pieces with
  | nil => exact absurd rfl hne
  | cons piece rest ih =>
      have hp : ∀ c ∈ piece, (c == sep) = false := fun c hc =>
        beq_eq_false_iff_ne.2 fun e => h piece List.mem_cons_self (e ▸ hc)
      cases rest with
      | nil => simpa [splitOn] using splitBy_eq_singleton _ piece hp
      | cons next rest =>
          have := splitBy_append (· == sep) piece ([sep].intercalate (next :: rest)) sep hp (by simp)
          simp only [splitOn] at ih ⊢
          rw [List.intercalate_cons_cons, List.append_assoc, List.singleton_append, this,
            ih (by simp) fun q hq => h q (List.mem_cons_of_mem piece hq)]

/-- Joining undoes splitting. -/
theorem intercalate_splitOn (sep : Char) (cs : List Char) :
    [sep].intercalate (splitOn sep cs) = cs := by
  induction cs with
  | nil => rfl
  | cons c cs ih =>
      simp only [splitOn, splitBy] at ih ⊢
      cases hs : splitBy (· == sep) cs with
      | nil => exact absurd hs (splitBy_ne_nil _ cs)
      | cons piece pieces =>
          rw [hs] at ih
          by_cases h : c = sep
          · simp [h, List.intercalate_cons_cons, ih]
          · cases pieces with
            | nil => simp_all
            | cons next rest => simp_all [List.intercalate_cons_cons]

/-! ## Cutting -/

/-- The cut is at the first member that satisfies `p`. -/
theorem cutBy?_append {α : Type} (p : α → Bool) (front rest : List α) (c : α)
    (h : ∀ d ∈ front, p d = false) (hc : p c = true) :
    cutBy? p (front ++ c :: rest) = some (front, rest) := by
  induction front with
  | nil => simp [cutBy?, hc]
  | cons d front ih => simp [cutBy?, h d, ih fun e he => h e (List.mem_cons_of_mem d he)]

/-- Where no member satisfies `p` there is no cut. -/
theorem cutBy?_eq_none {α : Type} (p : α → Bool) (cs : List α) (h : ∀ c ∈ cs, p c = false) :
    cutBy? p cs = none := by
  induction cs with
  | nil => rfl
  | cons c cs ih => simp [cutBy?, h c, ih fun d hd => h d (List.mem_cons_of_mem c hd)]

end VersionedApi.Text
