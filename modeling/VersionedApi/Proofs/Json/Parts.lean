import VersionedApi.Json.Shape
import VersionedApi.Proofs.Outcome

/-!
# Parts of a value

A record is written as an object or as a list, so one of its fields is found under a name or at a
place (`Json.part?`).  `Json.Reads` is what decoding such a part gives: nothing if it is not there,
and otherwise what the decoder of the field gives.  An optional text is null exactly where there is
none (`Json.reads_text?_iff`), and a list is decoded item by item (`Json.reads_list_iff`).
-/

namespace VersionedApi.Json

/-- The part of a value under a name of an object, or at a place of a list. -/
def part? (name : String) (index : Nat) : Json → Option Json
  | .obj ms => Members.get? ms name
  | .arr items => items[index]?
  | _ => none

variable {α : Type} {decode : Json → Decoded α} {o : Option α}

/-- How a part that need not be there is decoded. -/
inductive Reads (decode : Json → Decoded α) : Option Json → Option α → Prop where
  /-- It is not there. -/
  | absent : Reads decode none none
  /-- It is there and can be decoded. -/
  | present {x : Json} {a : α} (h : decode x = .ok a) : Reads decode (some x) (some a)

theorem reads_iff_of_part {part : Option Json} :
    (match part with
      | none => .ok none
      | some x => (decode x).map some : Decoded (Option α)) = .ok o ↔ Reads decode part o := by
  constructor
  · intro h
    cases part with
    | none =>
        cases h
        exact .absent
    | some x =>
        obtain ⟨a, ha, rfl⟩ := Outcome.map_eq_ok_iff.mp h
        exact .present ha
  · intro h
    cases h with
    | absent => rfl
    | present h => exact Outcome.map_eq_ok_iff.mpr ⟨_, h, rfl⟩

theorem field?_eq_ok_iff {name : String} {ms : Members} (index : Nat) :
    field? decode name ms = .ok o ↔ Reads decode (part? name index (.obj ms)) o :=
  reads_iff_of_part

theorem item?_eq_ok_iff {index : Nat} {items : List Json} (name : String) :
    item? decode index items = .ok o ↔ Reads decode (part? name index (.arr items)) o :=
  reads_iff_of_part

theorem atMost_eq_ok_iff {count : Nat} {items : List Json} {u : Unit} :
    atMost count items = .ok u ↔ items.length ≤ count := by
  rw [atMost]
  split
  next h => exact ⟨fun _ => h, fun _ => rfl⟩
  next h => exact ⟨fun h => (nomatch h), fun h' => absurd h' h⟩

/-! ## Texts and lists -/

theorem asText_eq_ok_iff {v : Json} {s : String} : asText v = .ok s ↔ v = .str s := by
  cases v with
  | str t => exact ⟨fun h => congrArg _ (Except.ok.inj h), fun h => congrArg _ (Json.str.inj h)⟩
  | _ => exact ⟨fun h => (nomatch h), fun h => (nomatch h)⟩

theorem reads_text_iff {part : Option Json} {s : String} :
    Reads asText part (some s) ↔ part = some (.str s) := by
  constructor
  · intro h
    cases h with
    | present h => rw [asText_eq_ok_iff.mp h]
  · rintro rfl
    exact .present rfl

/-- An optional text that need not be there is read as if null stood in its place. -/
theorem reads_text?_iff {part : Option Json} {text? : Option String} :
    (∃ o, Reads (asOptional asText) part o ∧ o.join = text?) ↔ part.getD .null = ofText? text? := by
  constructor
  · rintro ⟨o, h, rfl⟩
    cases h with
    | absent => rfl
    | @present x a h =>
        cases x with
        | null =>
            cases h
            rfl
        | str s =>
            cases h
            rfl
        | _ => cases h
  · intro h
    cases part with
    | none =>
        cases text? with
        | none => exact ⟨none, .absent, rfl⟩
        | some s => cases h
    | some x =>
        cases h
        cases text? with
        | none => exact ⟨some none, .present rfl, rfl⟩
        | some s => exact ⟨some (some s), .present rfl, rfl⟩

/-- An optional text is there if it is not null. -/
theorem filter_of_getD {part : Option Json} {text? : Option String}
    (h : part.getD .null = ofText? text?) : part.filter (· ≠ .null) = text?.map .str := by
  cases part with
  | none =>
      cases text? with
      | none => rfl
      | some s => cases h
  | some x =>
      cases h
      cases text? <;> rfl

theorem asList_eq_ok_iff {v : Json} {values : List α} :
    asList decode v = .ok values ↔
      ∃ items, v = .arr items ∧ List.Forall₂ (fun x a => decode x = .ok a) items values := by
  cases v with
  | arr items =>
      rw [asList, Outcome.mapM_eq_ok_iff]
      constructor
      · intro h
        exact ⟨items, rfl, h⟩
      · rintro ⟨_, hitems, h⟩
        cases hitems
        exact h
  | _ => exact ⟨fun h => (nomatch h), fun ⟨_, h, _⟩ => (nomatch h)⟩

/-- A list that need not be there is read item by item, and as none if it is not there. -/
theorem reads_list_iff {part : Option Json} {values : List α} :
    (∃ o, Reads (asList decode) part o ∧ o.getD [] = values) ↔
      ∃ items, part.getD (.arr []) = .arr items ∧
        List.Forall₂ (fun x a => decode x = .ok a) items values := by
  rw [← asList_eq_ok_iff]
  cases part with
  | none =>
      constructor
      · rintro ⟨o, ⟨⟩, rfl⟩
        rfl
      · intro h
        exact ⟨none, .absent, Except.ok.inj h⟩
  | some x =>
      constructor
      · rintro ⟨o, h, rfl⟩
        cases h with
        | present h => exact h
      · intro h
        exact ⟨some values, .present h, rfl⟩

/-! ## Written and read back -/

theorem asOptional_of_ne_null {v : Json} (h : v ≠ .null) :
    asOptional decode v = (decode v).map some := by
  cases v with
  | null => exact absurd rfl h
  | _ => rfl

/-- Optional values are read back if values are, and none of them is written as null. -/
theorem asOptional_map {encode : α → Json} (hread : ∀ a, decode (encode a) = .ok a)
    (hnull : ∀ a, encode a ≠ .null) (o : Option α) :
    asOptional decode ((o.map encode).getD .null) = .ok o := by
  cases o with
  | none => rfl
  | some a =>
      rw [Option.map_some, Option.getD_some, asOptional_of_ne_null (hnull a), hread a]
      rfl

/-- Lists are read back if their items are. -/
theorem asList_map {encode : α → Json} (hread : ∀ a, decode (encode a) = .ok a)
    (values : List α) : asList decode (.arr (values.map encode)) = .ok values := by
  refine asList_eq_ok_iff.mpr ⟨values.map encode, rfl, List.forall₂_map_left_iff.mpr ?_⟩
  exact List.forall₂_same.mpr fun a _ => hread a

theorem ofText?_eq (text? : Option String) : ofText? text? = (text?.map .str).getD .null := by
  cases text? <;> rfl

end VersionedApi.Json
