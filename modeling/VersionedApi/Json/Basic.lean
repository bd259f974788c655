import VersionedApi.Decimal.Double

/-!
# JSON values

A JSON document as a value.  Numbers are integers or binary floating point numbers: a numeral
without fraction and exponent that fits in 64 bits is an integer.  The members of an object are a
list in ascending order of their names, each name once; `Members.insert` and `Members.ofList`
build such lists, the last of several values for one name winning.
-/

namespace VersionedApi

/-- A JSON value. -/
inductive Json where
  /-- The null value. -/
  | null
  /-- A truth value. -/
  | bool (value : Bool)
  /-- An integer. -/
  | int (value : Int)
  /-- A number with a fraction or an exponent, or an integer of more than 64 bits. -/
  | double (value : Double)
  /-- A text. -/
  | str (value : String)
  /-- A list. -/
  | arr (items : List Json)
  /-- An object, its members in ascending order of their names. -/
  | obj (members : List (String × Json))
deriving Inhabited

namespace Json

mutual

/-- Whether two values are equal, with a proof of the answer. -/
def decideEq : (a b : Json) → Decidable (a = b)
  | .null, .null => isTrue rfl
  | .bool a, .bool b => decidable_of_iff (a = b) (by simp)
  | .int a, .int b => decidable_of_iff (a = b) (by simp)
  | .double a, .double b => decidable_of_iff (a = b) (by simp)
  | .str a, .str b => decidable_of_iff (a = b) (by simp)
  | .arr a, .arr b =>
      have := decideEqItems a b
      decidable_of_iff (a = b) (by simp)
  | .obj a, .obj b =>
      have := decideEqMembers a b
      decidable_of_iff (a = b) (by simp)
  | .null, .bool _ | .null, .int _ | .null, .double _ | .null, .str _ | .null, .arr _
  | .null, .obj _ | .bool _, .null | .bool _, .int _ | .bool _, .double _ | .bool _, .str _
  | .bool _, .arr _ | .bool _, .obj _ | .int _, .null | .int _, .bool _ | .int _, .double _
  | .int _, .str _ | .int _, .arr _ | .int _, .obj _ | .double _, .null | .double _, .bool _
  | .double _, .int _ | .double _, .str _ | .double _, .arr _ | .double _, .obj _
  | .str _, .null | .str _, .bool _ | .str _, .int _ | .str _, .double _ | .str _, .arr _
  | .str _, .obj _ | .arr _, .null | .arr _, .bool _ | .arr _, .int _ | .arr _, .double _
  | .arr _, .str _ | .arr _, .obj _ | .obj _, .null | .obj _, .bool _ | .obj _, .int _
  | .obj _, .double _ | .obj _, .str _ | .obj _, .arr _ => isFalse (by simp)

/-- Whether two lists of values are equal. -/
def decideEqItems : (a b : List Json) → Decidable (a = b)
  | [], [] => isTrue rfl
  | [], _ :: _ => isFalse (by simp)
  | _ :: _, [] => isFalse (by simp)
  | x :: xs, y :: ys =>
      have := decideEq x y
      have := decideEqItems xs ys
      decidable_of_iff (x = y ∧ xs = ys) (by simp)

/-- Whether two lists of members are equal. -/
def decideEqMembers : (a b : List (String × Json)) → Decidable (a = b)
  | [], [] => isTrue rfl
  | [], _ :: _ => isFalse (by simp)
  | _ :: _, [] => isFalse (by simp)
  | (n, x) :: xs, (m, y) :: ys =>
      have := decideEq x y
      have := decideEqMembers xs ys
      decidable_of_iff ((n = m ∧ x = y) ∧ xs = ys) (by simp)

end

instance : DecidableEq Json := decideEq

end Json

/-- The members of an object. -/
abbrev Members := List (String × Json)

namespace Members

/-- The members with one added, in place of a member of the same name. -/
def insert (name : String) (value : Json) : Members → Members
  | [] => [(name, value)]
  | (n, v) :: rest =>
      if name < n then (name, value) :: (n, v) :: rest
      else if name = n then (name, value) :: rest
      else (n, v) :: insert name value rest

/-- The members given by a list in any order, a later one replacing an earlier one of its name. -/
def ofList (pairs : List (String × Json)) : Members :=
  pairs.foldl (fun ms (name, value) => insert name value ms) []

/-- The value of the member of a name. -/
def get? (ms : Members) (name : String) : Option Json := ms.lookup name

/-- The members without those of the given names. -/
def without (ms : Members) (names : List String) : Members :=
  ms.filter fun m => !names.contains m.1

/-- An inserted member is found under its name, and every other one as before. -/
theorem get?_insert (name other : String) (value : Json) (ms : Members) :
    get? (insert name value ms) other = if other = name then some value else get? ms other := by
  induction ms with
  | nil =>
      by_cases h : other = name
      · simp [insert, get?, h]
      · simp [insert, get?, List.lookup_cons, h, beq_eq_false_iff_ne.2 h]
  | cons m rest ih =>
      obtain ⟨n, v⟩ := m
      unfold insert
      split
      · by_cases h : other = name
        · simp [get?, h]
        · simp [get?, List.lookup_cons, h, beq_eq_false_iff_ne.2 h]
      · split
        · rename_i hn
          subst hn
          by_cases h : other = name
          · simp [get?, h]
          · simp [get?, List.lookup_cons, h, beq_eq_false_iff_ne.2 h]
        · rename_i hn
          by_cases h : other = n
          · subst h
            simp [get?, Ne.symm hn]
          · simp only [get?, List.lookup_cons, beq_eq_false_iff_ne.2 h] at ih ⊢
            exact ih

end Members

namespace Json

/-- An object of the given members, in any order. -/
def ofMembers (pairs : List (String × Json)) : Json := .obj (Members.ofList pairs)

/-- An optional text, null if there is none. -/
def ofText? : Option String → Json
  | none => .null
  | some s => .str s

end Json

end VersionedApi
