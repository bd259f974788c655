import VersionedApi.Version.Entry
import VersionedApi.Proofs.Json.Members
import VersionedApi.Proofs.Json.Parts

/-!
# Entries written back

An entry keeps the members of its object that it does not know, and writes them back beside those
that it knows.  What an entry is decoded from is said once, as an equivalence
(`Link.ofJson_eq_ok_iff`, `VersionEntry.ofJson_eq_ok_iff`); what it is written as is known from the
values under each name (`VersionEntry.get?_members`).  Both laws of `VersionEntry.toJson_lossless`
follow: an object that is decoded and written back has lost nothing (`VersionEntry.Rewrites`), and
an entry that is written and decoded is the same.

A member that is kept under a name that the entry knows would be written in place of the field, so
the second law excludes it (`VersionEntry.Distinct`).
-/

namespace VersionedApi

open Json

/-! ## Links -/

/-- What a link of a document is written back as: an object with the same fields, without those that
are absent or null. -/
structure Link.Rewrites (v : Json) (written : Members) : Prop where
  /-- It is an object. -/
  ascending : written.Ascending
  /-- It has no other members. -/
  names : ∀ m ∈ written, m.1 ∈ ["href", "rel", "type"]
  /-- The target. -/
  href : written.get? "href" = v.part? "href" 0
  /-- The relation. -/
  rel : written.get? "rel" = (v.part? "rel" 1).filter (· ≠ .null)
  /-- The media type. -/
  mediaType : written.get? "type" = (v.part? "type" 2).filter (· ≠ .null)

namespace Link

/-- A value is a link if it has a target, its other fields are texts or null, and it is no list of
more than three items. -/
theorem ofJson_eq_ok_iff {v : Json} {l : Link} :
    ofJson v = .ok l ↔
      v.part? "href" 0 = some (.str l.href) ∧
        (v.part? "rel" 1).getD .null = ofText? l.rel ∧
        (v.part? "type" 2).getD .null = ofText? l.mediaType ∧
        ∀ items, v = .arr items → items.length ≤ 3 := by
  rw [← reads_text_iff, ← reads_text?_iff, ← reads_text?_iff]
  obtain ⟨href, rel, mediaType⟩ := l
  cases v with
  | obj ms =>
      simp only [ofJson, Outcome.bind_eq_ok_iff, field?_eq_ok_iff 0]
      constructor
      · rintro ⟨href?, hhref, rel?, hrel, type?, htype, h⟩
        cases href? with
        | none => cases h
        | some href' =>
            cases h
            exact ⟨hhref, ⟨rel?, hrel, rfl⟩, ⟨type?, htype, rfl⟩, fun _ h => (nomatch h)⟩
      · rintro ⟨hhref, ⟨rel?, hrel, rfl⟩, ⟨type?, htype, rfl⟩, _⟩
        exact ⟨some href, hhref, rel?, hrel, type?, htype, rfl⟩
  | arr items =>
      simp only [ofJson, Outcome.bind_eq_ok_iff]
      constructor
      · rintro ⟨href?, hhref, h⟩
        cases href? with
        | none => cases h
        | some href' =>
            obtain ⟨rel?, hrel, h⟩ := Outcome.bind_eq_ok_iff.mp h
            obtain ⟨type?, htype, h⟩ := Outcome.bind_eq_ok_iff.mp h
            obtain ⟨_, hcount, h⟩ := Outcome.bind_eq_ok_iff.mp h
            cases h
            refine ⟨(item?_eq_ok_iff _).mp hhref, ⟨rel?, (item?_eq_ok_iff _).mp hrel, rfl⟩,
              ⟨type?, (item?_eq_ok_iff _).mp htype, rfl⟩, ?_⟩
            rintro _ ⟨⟩
            exact atMost_eq_ok_iff.mp hcount
      · rintro ⟨hhref, ⟨rel?, hrel, rfl⟩, ⟨type?, htype, rfl⟩, hcount⟩
        refine ⟨some href, (item?_eq_ok_iff _).mpr hhref, ?_⟩
        refine Outcome.bind_eq_ok_iff.mpr ⟨rel?, (item?_eq_ok_iff _).mpr hrel, ?_⟩
        refine Outcome.bind_eq_ok_iff.mpr ⟨type?, (item?_eq_ok_iff _).mpr htype, ?_⟩
        exact Outcome.bind_eq_ok_iff.mpr ⟨(), atMost_eq_ok_iff.mpr (hcount items rfl), rfl⟩
  | _ => exact ⟨fun h => (nomatch h), fun h => (nomatch h.1)⟩

/-- The members that a link is written as. -/
def members (l : Link) : Members :=
  Members.ofList ([("href", .str l.href)] ++ member? "rel" l.rel ++ member? "type" l.mediaType)

theorem toJson_eq (l : Link) : l.toJson = .obj l.members := rfl

/-- A member that need not be there is put in last. -/
theorem get?_ofList_member? (pairs : List (String × Json)) (name other : String)
    (text? : Option String) :
    Members.get? (Members.ofList (pairs ++ member? name text?)) other =
      ((if other = name then text?.map .str else none).or
        (Members.get? (Members.ofList pairs) other)) := by
  cases text? with
  | none => simp [member?]
  | some s =>
      by_cases hname : other = name <;>
        simp [member?, Members.ofList, Members.get?_insert, hname]

theorem get?_members (l : Link) (name : String) :
    l.members.get? name =
      ((if name = "type" then l.mediaType.map .str else none).or
        ((if name = "rel" then l.rel.map .str else none).or
          (if name = "href" then some (.str l.href) else none))) := by
  have hhref : Members.get? (Members.ofList [("href", .str l.href)]) name =
      if name = "href" then some (.str l.href) else none :=
    Members.get?_insert "href" name (.str l.href) []
  rw [members, get?_ofList_member?, get?_ofList_member?, hhref]

theorem ascending_members (l : Link) : l.members.Ascending := Members.ascending_ofList _

theorem ofJson_toJson (l : Link) : ofJson l.toJson = .ok l := by
  have hget (name : String) (index : Nat) : l.toJson.part? name index = l.members.get? name := rfl
  refine ofJson_eq_ok_iff.mpr ⟨?_, ?_, ?_, fun _ h => (nomatch h)⟩
  · simp [hget, get?_members]
  · cases h : l.rel <;> simp [hget, get?_members, h, ofText?]
  · cases h : l.mediaType <;> simp [hget, get?_members, h, ofText?]

/-- A link that was decoded is written back with the fields it had. -/
theorem rewrites_members {v : Json} {l : Link} (h : ofJson v = .ok l) : Rewrites v l.members := by
  obtain ⟨hhref, hrel, htype, _⟩ := ofJson_eq_ok_iff.mp h
  refine ⟨l.ascending_members, fun m hm => ?_, ?_, ?_, ?_⟩
  · have hvalue : l.members.get? m.1 = some m.2 := l.ascending_members.get?_eq_some_iff.mpr hm
    refine Classical.byContradiction fun hname => ?_
    simp only [List.mem_cons, List.not_mem_nil, or_false, not_or] at hname
    rw [get?_members, if_neg hname.1, if_neg hname.2.1, if_neg hname.2.2] at hvalue
    cases hvalue
  · simp [hhref, get?_members]
  · rw [filter_of_getD hrel]
    simp [get?_members]
  · rw [filter_of_getD htype]
    simp [get?_members]

end Link

/-! ## Entries -/

/-- What the object of an entry is written back as. -/
structure VersionEntry.Rewrites (ms written : Members) : Prop where
  /-- It is an object. -/
  ascending : written.Ascending
  /-- The name is the same. -/
  id : written.get? "id" = ms.get? "id"
  /-- The status is the same, and null if there was none. -/
  status : written.get? "status" = some ((ms.get? "status").getD .null)
  /-- The links are the same ones in the same order, and none if there was no list. -/
  links : ∃ (items : List Json) (rewritten : List Members),
    (ms.get? "links").getD (.arr []) = .arr items ∧
      written.get? "links" = some (.arr (rewritten.map .obj)) ∧
      List.Forall₂ Link.Rewrites items rewritten
  /-- Every other member is the same. -/
  others : ∀ name, name ∉ ["id", "links", "status"] → written.get? name = ms.get? name

namespace VersionEntry

variable {ms : Members} {e : VersionEntry}

/-- The object of an entry has a name, which is a text; the status is a text or null, the links are a
list of links, and all that is left is kept. -/
theorem ofJson_eq_ok_iff :
    ofJson (.obj ms) = .ok e ↔
      ms.get? "id" = some (.str e.id) ∧
        (ms.get? "status").getD .null = ofText? e.status ∧
        (∃ items, (ms.get? "links").getD (.arr []) = .arr items ∧
          List.Forall₂ (fun v l => Link.ofJson v = .ok l) items e.links) ∧
        e.extra = Members.without ms known := by
  rw [← reads_text_iff, ← reads_text?_iff, ← reads_list_iff]
  obtain ⟨id, status, links, extra⟩ := e
  simp only [ofJson, Outcome.bind_eq_ok_iff, field?_eq_ok_iff 0]
  constructor
  · rintro ⟨id?, hid, links?, hlinks, status?, hstatus, h⟩
    cases id? with
    | none => cases h
    | some id' =>
        cases h
        exact ⟨hid, ⟨status?, hstatus, rfl⟩, ⟨links?, hlinks, rfl⟩, rfl⟩
  · rintro ⟨hid, ⟨status?, hstatus, rfl⟩, ⟨links?, hlinks, rfl⟩, rfl⟩
    exact ⟨some id, hid, links?, hlinks, status?, hstatus, rfl⟩

/-- The members that an entry is written as. -/
def members (e : VersionEntry) : Members :=
  Members.ofList
    ([("id", .str e.id), ("status", ofText? e.status), ("links", .arr (e.links.map Link.toJson))]
      ++ e.extra)

theorem toJson_eq (e : VersionEntry) : e.toJson = .obj e.members := rfl

theorem ascending_members (e : VersionEntry) : e.members.Ascending := Members.ascending_ofList _

/-- A member that is kept is written, and else the field of its name. -/
theorem get?_members (hextra : e.extra.Ascending) (name : String) :
    e.members.get? name =
      (e.extra.get? name).or
        (if name = "links" then some (.arr (e.links.map Link.toJson))
        else if name = "status" then some (ofText? e.status)
        else if name = "id" then some (.str e.id)
        else none) := by
  rw [members, Members.get?_ofList_append _ hextra]
  simp only [Members.ofList, List.foldl_cons, List.foldl_nil, Members.get?_insert]
  rfl

/-- Under a name that an entry does not know, what it keeps is written. -/
theorem get?_members_of_notMem (hextra : e.extra.Ascending) {name : String} (hname : name ∉ known) :
    e.members.get? name = e.extra.get? name := by
  simp only [known, List.mem_cons, List.not_mem_nil, or_false, not_or] at hname
  rw [get?_members hextra, if_neg hname.2.1, if_neg hname.2.2, if_neg hname.1, Option.or_none]

/-- An entry keeps nothing under a name that it knows. -/
def Distinct (e : VersionEntry) : Prop := ∀ m ∈ e.extra, m.1 ∉ known

theorem ofJson_toJson_of_distinct (hextra : e.extra.Ascending) (hdistinct : e.Distinct) :
    ofJson e.toJson = .ok e := by
  have hnone {name : String} (hname : name ∈ known) :
      e.extra.get? name = none := by
    refine Option.eq_none_iff_forall_ne_some.mpr fun value hvalue => ?_
    exact hdistinct _ (hextra.get?_eq_some_iff.mp hvalue) hname
  have hid : e.members.get? "id" = some (.str e.id) := by
    rw [get?_members hextra, hnone (by decide)]
    rfl
  have hstatus : e.members.get? "status" = some (ofText? e.status) := by
    rw [get?_members hextra, hnone (by decide)]
    rfl
  have hlinks : e.members.get? "links" = some (.arr (e.links.map Link.toJson)) := by
    rw [get?_members hextra, hnone (by decide)]
    rfl
  rw [toJson_eq, ofJson_eq_ok_iff]
  refine ⟨hid, ?_, ⟨e.links.map Link.toJson, ?_, ?_⟩, ?_⟩
  · rw [hstatus]
    rfl
  · rw [hlinks]
    rfl
  · exact List.forall₂_map_left_iff.mpr (List.forall₂_same.mpr fun l _ => l.ofJson_toJson)
  · refine hextra.ext (e.ascending_members.without known) fun name => ?_
    rw [e.ascending_members.get?_without]
    by_cases hname : name ∈ known
    · rw [if_pos hname, hnone hname]
    · rw [if_neg hname, get?_members_of_notMem hextra hname]

/-- What an entry keeps of its object. -/
theorem mem_extra_iff (h : ofJson (.obj ms) = .ok e) {m : String × Json} :
    m ∈ e.extra ↔ m ∈ ms ∧ m.1 ∉ known := by
  obtain ⟨_, _, _, hextra⟩ := ofJson_eq_ok_iff.mp h
  rw [hextra, Members.mem_without]

theorem ascending_extra (hms : ms.Ascending) (h : ofJson (.obj ms) = .ok e) :
    e.extra.Ascending := by
  obtain ⟨_, _, _, hextra⟩ := ofJson_eq_ok_iff.mp h
  rw [hextra]
  exact hms.without known

/-- An entry that was decoded is written back as its object. -/
theorem rewrites_members (hms : ms.Ascending) (h : ofJson (.obj ms) = .ok e) :
    Rewrites ms e.members := by
  obtain ⟨hid, hstatus, ⟨items, hitems, hlinks⟩, hextra⟩ := ofJson_eq_ok_iff.mp h
  have hget (name : String) : e.extra.get? name =
      if name ∈ known then none else ms.get? name := by
    rw [hextra, hms.get?_without]
  have hmembers := get?_members (ascending_extra hms h)
  refine ⟨e.ascending_members, ?_, ?_, ⟨items, e.links.map Link.members, hitems, ?_, ?_⟩, ?_⟩
  · rw [hmembers, hget, hid]
    rfl
  · rw [hmembers, hget, hstatus]
    rfl
  · rw [hmembers, hget, List.map_map]
    rfl
  · exact List.forall₂_map_right_iff.mpr (hlinks.imp fun _ _ h => Link.rewrites_members h)
  · intro name hname
    rw [get?_members_of_notMem (ascending_extra hms h) hname, hget]
    exact if_neg hname

/-- An entry that is decoded from an object keeps exactly the members that it does not know, is
written back as the same object, and is decoded again from what is written; and so is every entry
that keeps nothing under a name that it knows. -/
theorem toJson_lossless :
    (∀ (ms : Members) (e : VersionEntry), ms.Ascending → ofJson (.obj ms) = .ok e →
      (e.extra.Ascending ∧ ∀ m, m ∈ e.extra ↔ m ∈ ms ∧ m.1 ∉ ["id", "links", "status"]) ∧
      (∃ written, e.toJson = .obj written ∧ Rewrites ms written) ∧
      ofJson e.toJson = .ok e) ∧
    ∀ e : VersionEntry, e.extra.Ascending → (∀ m ∈ e.extra, m.1 ∉ ["id", "links", "status"]) →
      ofJson e.toJson = .ok e := by
  constructor
  · intro ms e hms h
    have hextra := ascending_extra hms h
    refine ⟨⟨hextra, fun m => mem_extra_iff h⟩, ⟨e.members, e.toJson_eq, rewrites_members hms h⟩, ?_⟩
    exact ofJson_toJson_of_distinct hextra fun m hm => ((mem_extra_iff h).mp hm).2
  · intro e hextra hdistinct
    exact ofJson_toJson_of_distinct hextra hdistinct

/-- An entry without a status, with a link that is a list, one whose relation is null and a nested
member that is kept: its object is written back with a null status and the links as objects. -/
theorem toJson_lossless_nested :
    let types : Json := .arr [.obj [("base", .str "application/json"), ("type", .null)]]
    let ms : Members :=
      [("id", .str "v2.0"),
        ("links", .arr [.arr [.str "https://a.example/v2", .str "self"],
          .obj [("href", .str "https://a.example/doc"), ("rel", .null)]]),
        ("media-types", types)]
    let e : VersionEntry := {
      id := "v2.0"
      status := none
      links := [⟨"https://a.example/v2", some "self", none⟩, ⟨"https://a.example/doc", none, none⟩]
      extra := [("media-types", types)] }
    (ofJson (.obj ms) = .ok e ∧ ofJson e.toJson = .ok e ∧
      ∃ written, e.toJson = .obj written ∧ Rewrites ms written) ∧
    ofJson ({ e with links := [] } : VersionEntry).toJson = .ok { e with links := [] } := by
  intro types ms e
  have he : ofJson (.obj ms) = .ok e := rfl
  obtain ⟨_, hwritten, hagain⟩ := toJson_lossless.1 ms e (by decide +kernel) he
  exact ⟨⟨he, hagain, hwritten⟩,
    toJson_lossless.2 { e with links := [] } (by decide +kernel) (by decide +kernel)⟩

end VersionEntry

end VersionedApi
