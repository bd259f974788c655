import VersionedApi.Discovery.Document
import VersionedApi.Proofs.Outcome

/-!
# The shapes of a discovery document

A document gives one version, a list of versions, or a list that is wrapped once; any other document
lists nothing or is refused.  `Lists` says which outcome each document has, with one rule for each
way, and `extractVersions_eq_iff_lists` that every document has this outcome and no other.  The
rules do not mention how the entries are extracted: a wrapped list is described by what it holds
(`ListShape.Holds`), and the outcome for the items of a list by the first item that is no entry
(`Decodes`).

They are the rules of the two shapes that are known (`ListShape.Known`); a profile that brings a
shape of its own makes its own rules for what stands under `versions`.
-/

namespace VersionedApi

/-! ## The rules -/

/-- The name of the kind of a value that is no list. -/
inductive Json.NamedKind : Json → String → Prop where
  /-- The null value has its own name. -/
  | null : NamedKind .null "null"
  /-- A truth value. -/
  | bool (b : Bool) : NamedKind (.bool b) "a boolean"
  /-- An integer is a number. -/
  | int (n : Int) : NamedKind (.int n) "a number"
  /-- And so is a number with a fraction. -/
  | double (d : Double) : NamedKind (.double d) "a number"
  /-- A text. -/
  | str (s : String) : NamedKind (.str s) "a string"
  /-- An object. -/
  | obj (ms : Members) : NamedKind (.obj ms) "an object"

/-- The shapes in which services are known to list their versions. -/
def ListShape.Known (shape : ListShape) : Prop := shape = .flat ∨ shape = .wrapped

/-- What a value under `versions` is taken for: what it wraps, if the shape allows a wrapper and the
value is one, and the value itself otherwise. -/
inductive ListShape.Holds : ListShape → Json → Json → Prop where
  /-- Nothing is unwrapped. -/
  | flat (v : Json) : Holds .flat v v
  /-- The wrapper is taken off, but no wrapper inside it. -/
  | wrapper {ms : Members} {v : Json} (hvalues : ms.get? "values" = some v) :
      Holds .wrapped (.obj ms) v
  /-- An object that wraps nothing stays. -/
  | object {ms : Members} (hvalues : ms.get? "values" = none) : Holds .wrapped (.obj ms) (.obj ms)
  /-- A value that is no object stays. -/
  | other {v : Json} (hv : ∀ ms, v ≠ .obj ms) : Holds .wrapped v v

/-- The outcome for the items of a list. -/
inductive Decodes : List Json → Except ApiError (List VersionEntry) → Prop where
  /-- Every item is an entry. -/
  | entries {items : List Json} {entries : List VersionEntry}
      (h : List.Forall₂ (fun v e => VersionEntry.ofJson v = .ok e) items entries) :
      Decodes items (.ok entries)
  /-- An item is no entry, and every one before it is. -/
  | refused {before after : List Json} {v : Json} {fault : Json.ShapeFault}
      (hbefore : ∀ u ∈ before, ∃ e, VersionEntry.ofJson u = .ok e)
      (hv : VersionEntry.ofJson v = .error fault) :
      Decodes (before ++ v :: after) (.error (.json (.shape fault)))

/-- The outcome for a document. -/
inductive Lists (shape : ListShape) : Json → Except ApiError (List VersionEntry) → Prop where
  /-- A document that is no object lists nothing. -/
  | nothing {document : Json} (hdocument : ∀ ms, document ≠ .obj ms) : Lists shape document (.ok [])
  /-- Nor does an object without either member. -/
  | neither {ms : Members} (hversion : ms.get? "version" = none)
      (hversions : ms.get? "versions" = none) : Lists shape (.obj ms) (.ok [])
  /-- A version is a list of one, whatever else the object has. -/
  | single {ms : Members} {v : Json} {r : Except ApiError (List VersionEntry)}
      (hversion : ms.get? "version" = some v)
      (hlist : Lists shape (.obj [("versions", .arr [v])]) r) : Lists shape (.obj ms) r
  /-- What is no list is refused by its kind. -/
  | noList {ms : Members} {w v : Json} {kind : String} (hversion : ms.get? "version" = none)
      (hversions : ms.get? "versions" = some w) (hholds : shape.Holds w v)
      (hkind : v.NamedKind kind) :
      Lists shape (.obj ms) (.error (.discovery ("expected a list of versions, got " ++ kind)))
  /-- A list has the outcome of its items. -/
  | listed {ms : Members} {w : Json} {items : List Json} {r : Except ApiError (List VersionEntry)}
      (hversion : ms.get? "version" = none) (hversions : ms.get? "versions" = some w)
      (hholds : shape.Holds w (.arr items)) (hitems : Decodes items r) : Lists shape (.obj ms) r

/-- The documents of a shape that carry the given items: one version, a list, or a wrapped list. -/
inductive Carries : ListShape → Json → List Json → Prop where
  /-- One version. -/
  | single (shape : ListShape) {ms : Members} {v : Json} (hversion : ms.get? "version" = some v) :
      Carries shape (.obj ms) [v]
  /-- A list. -/
  | list {shape : ListShape} (hshape : shape.Known) {ms : Members} {items : List Json}
      (hversion : ms.get? "version" = none) (hversions : ms.get? "versions" = some (.arr items)) :
      Carries shape (.obj ms) items
  /-- A wrapped list. -/
  | wrapper {ms ws : Members} {items : List Json} (hversion : ms.get? "version" = none)
      (hversions : ms.get? "versions" = some (.obj ws))
      (hvalues : ws.get? "values" = some (.arr items)) : Carries .wrapped (.obj ms) items

/-! ## The parts of the extraction -/

theorem Json.kindText_of_namedKind {v : Json} {kind : String} (h : v.NamedKind kind) :
    v.kindText = kind := by
  cases h <;> rfl

theorem Json.namedKind_kindText {v : Json} (h : ∀ items, v ≠ .arr items) :
    v.NamedKind v.kindText := by
  cases v with
  | null => exact .null
  | bool b => exact .bool b
  | int n => exact .int n
  | double d => exact .double d
  | str s => exact .str s
  | arr items => exact absurd rfl (h items)
  | obj ms => exact .obj ms

namespace ListShape

theorem unwrap_wrapped_obj (ms : Members) :
    wrapped.unwrap (.obj ms) = (Members.get? ms "values").getD (.obj ms) := rfl

theorem unwrap_wrapped_of_ne {v : Json} (hv : ∀ ms, v ≠ .obj ms) : wrapped.unwrap v = v := by
  cases v with
  | obj ms => exact absurd rfl (hv ms)
  | _ => rfl

theorem Known.holds_unwrap {shape : ListShape} (h : shape.Known) (w : Json) :
    shape.Holds w (shape.unwrap w) := by
  rcases h with rfl | rfl
  · exact .flat w
  · cases w with
    | obj ms =>
        rw [unwrap_wrapped_obj]
        cases hvalues : Members.get? ms "values" with
        | none => exact .object hvalues
        | some v => exact .wrapper hvalues
    | _ => exact .other (fun _ h => nomatch h)

theorem Holds.unwrap_eq {shape : ListShape} {w v : Json} (h : shape.Holds w v) :
    shape.unwrap w = v := by
  cases h with
  | flat => rfl
  | wrapper hvalues => rw [unwrap_wrapped_obj, hvalues, Option.getD_some]
  | object hvalues => rw [unwrap_wrapped_obj, hvalues, Option.getD_none]
  | other hv => exact unwrap_wrapped_of_ne hv

/-- A list is no wrapper. -/
theorem Known.holds_arr {shape : ListShape} (h : shape.Known) (items : List Json) :
    shape.Holds (.arr items) (.arr items) := by
  rcases h with rfl | rfl
  · exact .flat _
  · exact .other (fun _ h => nomatch h)

end ListShape

/-- The entries of the items of a list. -/
def entriesOf (items : List Json) : Except ApiError (List VersionEntry) :=
  (items.mapM VersionEntry.ofJson).mapError ApiError.ofShape

theorem entriesOf_cons (v : Json) (items : List Json) :
    entriesOf (v :: items) =
      match VersionEntry.ofJson v with
      | .error fault => .error (.json (.shape fault))
      | .ok e => (entriesOf items).map (e :: ·) := by
  rw [entriesOf, entriesOf, List.mapM_cons]
  cases VersionEntry.ofJson v with
  | error fault => rfl
  | ok e => cases items.mapM VersionEntry.ofJson <;> rfl

theorem decodes_entriesOf (items : List Json) : Decodes items (entriesOf items) := by
  induction items with
  | nil => exact .entries .nil
  | cons v items ih =>
      rw [entriesOf_cons]
      cases hv : VersionEntry.ofJson v with
      | error fault =>
          have hbefore : ∀ u ∈ ([] : List Json), ∃ e, VersionEntry.ofJson u = .ok e :=
            fun _ h => nomatch h
          exact .refused hbefore hv
      | ok e =>
          generalize entriesOf items = r at ih
          cases ih with
          | entries h => exact .entries (.cons hv h)
          | @refused before after u fault hbefore hu =>
              have hbefore : ∀ u' ∈ v :: before, ∃ e, VersionEntry.ofJson u' = .ok e :=
                List.forall_mem_cons.mpr ⟨⟨e, hv⟩, hbefore⟩
              exact .refused hbefore hu

theorem Decodes.entriesOf_eq {items : List Json} {r : Except ApiError (List VersionEntry)}
    (h : Decodes items r) : entriesOf items = r := by
  cases h with
  | entries h => exact Outcome.mapError_eq_ok_iff.mpr (Outcome.mapM_eq_ok_iff.mpr h)
  | @refused before after v fault hbefore hv =>
      induction before with
      | nil => rw [List.nil_append, entriesOf_cons, hv]
      | cons u before ih =>
          obtain ⟨⟨e, he⟩, hbefore⟩ := List.forall_mem_cons.mp hbefore
          rw [List.cons_append, entriesOf_cons, he, ih hbefore]
          rfl

/-! ## The extraction -/

section

variable {ms : Members} {shape : ListShape}

theorem extractVersions_single {v : Json} (hversion : ms.get? "version" = some v) :
    extractVersions (.obj ms) shape = entriesOf [v] := by
  rw [extractVersions, versionList?, hversion]
  rfl

theorem extractVersions_neither (hversion : ms.get? "version" = none)
    (hversions : ms.get? "versions" = none) : extractVersions (.obj ms) shape = .ok [] := by
  rw [extractVersions, versionList?, hversion, hversions]
  rfl

theorem extractVersions_list {w : Json} {items : List Json} (hversion : ms.get? "version" = none)
    (hversions : ms.get? "versions" = some w) (hholds : shape.Holds w (.arr items)) :
    extractVersions (.obj ms) shape = entriesOf items := by
  rw [extractVersions, versionList?, hversion, hversions]
  dsimp only
  rw [Option.map_some, hholds.unwrap_eq]
  rfl

theorem extractVersions_noList {w v : Json} (hversion : ms.get? "version" = none)
    (hversions : ms.get? "versions" = some w) (hholds : shape.Holds w v)
    (hv : ∀ items, v ≠ .arr items) :
    extractVersions (.obj ms) shape =
      .error (.discovery ("expected a list of versions, got " ++ v.kindText)) := by
  rw [extractVersions, versionList?, hversion, hversions]
  dsimp only
  rw [Option.map_some, hholds.unwrap_eq]
  cases v with
  | arr items => exact absurd rfl (hv items)
  | _ => rfl

end

theorem lists_extractVersions {shape : ListShape} (hshape : shape.Known) (document : Json) :
    Lists shape document (extractVersions document shape) := by
  cases document with
  | obj ms =>
      cases hversion : Members.get? ms "version" with
      | some v =>
          rw [extractVersions_single hversion]
          exact .single hversion (.listed rfl rfl (hshape.holds_arr [v]) (decodes_entriesOf [v]))
      | none =>
          cases hversions : Members.get? ms "versions" with
          | none =>
              rw [extractVersions_neither hversion hversions]
              exact .neither hversion hversions
          | some w =>
              have hholds := hshape.holds_unwrap w
              generalize shape.unwrap w = v at hholds
              by_cases hv : ∀ items, v ≠ .arr items
              · rw [extractVersions_noList hversion hversions hholds hv]
                exact .noList hversion hversions hholds (Json.namedKind_kindText hv)
              · simp only [ne_eq, not_forall, not_not] at hv
                obtain ⟨items, rfl⟩ := hv
                rw [extractVersions_list hversion hversions hholds]
                exact .listed hversion hversions hholds (decodes_entriesOf items)
  | _ => exact .nothing (fun _ h => nomatch h)

theorem Lists.extractVersions_eq {shape : ListShape} (hshape : shape.Known) {document : Json}
    {r : Except ApiError (List VersionEntry)} (h : Lists shape document r) :
    extractVersions document shape = r := by
  induction h with
  | @nothing document hdocument =>
      cases document with
      | obj ms => exact absurd rfl (hdocument ms)
      | _ => rfl
  | neither hversion hversions => exact extractVersions_neither hversion hversions
  | @single ms v r hversion _ ih =>
      have hlist : extractVersions (.obj [("versions", .arr [v])]) shape = entriesOf [v] :=
        extractVersions_list rfl rfl (hshape.holds_arr [v])
      rw [extractVersions_single hversion, ← hlist, ih]
  | noList hversion hversions hholds hkind =>
      rw [extractVersions_noList hversion hversions hholds (fun _ h => by subst h; cases hkind),
        Json.kindText_of_namedKind hkind]
  | listed hversion hversions hholds hitems =>
      rw [extractVersions_list hversion hversions hholds, hitems.entriesOf_eq]

theorem Carries.extractVersions_eq {shape : ListShape} {document : Json} {items : List Json}
    (h : Carries shape document items) : extractVersions document shape = entriesOf items := by
  cases h with
  | single _ hversion => exact extractVersions_single hversion
  | list hshape hversion hversions =>
      exact extractVersions_list hversion hversions (hshape.holds_arr items)
  | wrapper hversion hversions hvalues =>
      exact extractVersions_list hversion hversions (.wrapper hvalues)

/-- Every document of a known shape has the outcome of the rules and no other, and two documents
that carry the same items have one outcome, whatever their shapes and whatever else they hold. -/
theorem extractVersions_eq_iff_lists :
    (∀ shape : ListShape, shape.Known →
      ∀ document r, extractVersions document shape = r ↔ Lists shape document r) ∧
      ∀ shape shape' document document' items, Carries shape document items →
        Carries shape' document' items →
        extractVersions document shape = extractVersions document' shape' := by
  constructor
  · intro shape hshape document r
    constructor
    · intro h
      rw [← h]
      exact lists_extractVersions hshape document
    · exact Lists.extractVersions_eq hshape
  · intro shape shape' document document' items h h'
    rw [h.extractVersions_eq, h'.extractVersions_eq]

/-- A version beside a null and a list that is wrapped give the same entry. -/
theorem extractVersions_eq_iff_lists_wrapped :
    let v : Json := .obj [("id", .str "v2.0"), ("updated", .int 1)]
    let single : Json := .obj [("version", v), ("versions", .null)]
    let wrapped : Json := .obj [("versions", .obj [("values", .arr [v])])]
    extractVersions wrapped .wrapped = .ok [⟨"v2.0", none, [], [("updated", .int 1)]⟩] ∧
      extractVersions single .flat = extractVersions wrapped .wrapped := by
  intro v single wrapped
  obtain ⟨hrules, hsame⟩ := extractVersions_eq_iff_lists
  have hv : VersionEntry.ofJson v = .ok ⟨"v2.0", none, [], [("updated", .int 1)]⟩ := rfl
  constructor
  · refine (hrules .wrapped (Or.inr rfl) wrapped _).mpr ?_
    exact .listed rfl rfl (.wrapper rfl) (.entries (.cons hv .nil))
  · exact hsame .flat .wrapped single wrapped [v] (.single .flat rfl) (.wrapper rfl rfl rfl)

/-- A wrapper inside a wrapper is no list. -/
example : extractVersions (.obj [("versions", .obj [("values", .obj [("values", .arr [])])])])
    .wrapped = .error (.discovery "expected a list of versions, got an object") := rfl

end VersionedApi
