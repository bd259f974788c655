import VersionedApi.Proofs.Discovery.Run

/-!
# Corrected URLs

A correction looks at the text of a path and changes its segments.  The text ends in a segment if
only slashes stand behind it (`Path.EndsIn`), and then this is the last of the segments that is not
empty, with the text of the segments before it in front (`segments_of_endsIn`).  So what is taken
off is one segment and the slashes behind it, and what remains is a path again
(`apply_stripSegment`).
-/

namespace VersionedApi

namespace Url.Path

/-! ## The end of a path -/

/-- A path that ends in a segment when the slashes behind it are left out; the parent is what stands
before the slash of the segment. -/
structure EndsIn (path parent segment : String) : Prop where
  /-- The text of the path. -/
  text : ∃ n, path.toList = parent.toList ++ '/' :: segment.toList ++ List.replicate n '/'
  /-- The segment is whole: no slash stands in it. -/
  whole : '/' ∉ segment.toList
  /-- And it is no slash that is left out. -/
  nonempty : segment ≠ ""

theorem EndsIn.getLast?_ne {path parent segment : String} (h : EndsIn path parent segment) :
    (parent.toList ++ '/' :: segment.toList).getLast? ≠ some '/' := by
  have hne : segment.toList ≠ [] := fun hnil => h.nonempty (String.toList_eq_nil_iff.mp hnil)
  rw [List.getLast?_append_of_ne_nil _ (List.cons_ne_nil _ _), List.getLast?_cons_of_ne_nil hne]
  exact fun hlast => h.whole (List.mem_of_getLast? hlast)

theorem toList_render (segments : List String) :
    (render (.rooted segments)).toList = ['/'].intercalate ([] :: segments.map String.toList) := by
  cases segments with
  | nil => rfl
  | cons s rest =>
      rw [toList_render_cons, List.map_cons, List.intercalate_cons_cons]
      rfl

theorem render_eq_empty_iff {segments : List String} :
    render (.rooted segments) = "" ↔ segments = [] := by
  cases segments with
  | nil => exact ⟨fun _ => rfl, fun _ => rfl⟩
  | cons s rest =>
      rw [← String.toList_eq_nil_iff, toList_render_cons]
      exact ⟨fun h => (nomatch h), fun h => (nomatch h)⟩

/-- A path whose text ends in a segment has it as its last segment, but for empty ones behind it,
and the segments before it have the text before it. -/
theorem segments_of_endsIn {kind : SchemeKind} {segments : List String}
    (h : Settled kind segments) {parent segment : String}
    (hends : EndsIn (render (.rooted segments)) parent segment) :
    ∃ kept n, segments = kept ++ segment :: List.replicate n "" ∧
      parent = render (.rooted kept) := by
  obtain ⟨n, htext⟩ := hends.text
  have hpieces : ∀ piece ∈ ([] : List Char) :: segments.map String.toList, '/' ∉ piece := by
    intro piece hpiece hslash
    rcases List.mem_cons.mp hpiece with rfl | hpiece
    · cases hslash
    · obtain ⟨s, hs, rfl⟩ := List.mem_map.mp hpiece
      have hnone := (h s hs).unbroken '/' hslash
      rw [isSlash_slash] at hnone
      cases hnone
  have hsplit : [] :: segments.map String.toList =
      Text.splitOn '/' parent.toList ++ segment.toList :: List.replicate n [] :=
    calc [] :: segments.map String.toList
        = Text.splitOn '/' (['/'].intercalate ([] :: segments.map String.toList)) :=
          (Text.splitOn_intercalate '/' _ (List.cons_ne_nil _ _) hpieces).symm
      _ = Text.splitOn '/' (parent.toList ++ '/' :: (segment.toList ++ List.replicate n '/')) := by
          rw [← toList_render, htext, List.append_assoc, List.cons_append]
      _ = Text.splitOn '/' parent.toList ++ Text.splitOn '/' (segment.toList ++
            List.replicate n '/') := Text.splitBy_append_cons (p := (· == '/')) rfl _ _
      _ = Text.splitOn '/' parent.toList ++ segment.toList :: List.replicate n [] := by
          rw [Text.splitOn_append_replicate hends.whole]
  -- The text begins with a slash, so that the first piece of the parent is empty too.
  cases hparent : Text.splitOn '/' parent.toList with
  | nil => exact absurd hparent (Text.splitBy_ne_nil _ _)
  | cons first pieces =>
      rw [hparent, List.cons_append, List.cons.injEq] at hsplit
      obtain ⟨rfl, hsegments⟩ := hsplit
      refine ⟨pieces.map String.ofList, n, ?_, ?_⟩
      · have hmap := congrArg (List.map String.ofList) hsegments
        simpa [Function.comp_def] using hmap
      · rw [← String.toList_inj, toList_render, ← Text.intercalate_splitOn '/' parent.toList,
          hparent]
        simp [Function.comp_def]

end Url.Path

/-! ## What is taken off -/

namespace Url

/-- A path is changed to some of its own segments by their text, none standing for the root. -/
theorem Settled.setPath_render {u : Url} (h : u.Settled) {kept : List String}
    (hkept : Path.Settled .special kept) :
    u.setPath (Path.render (.rooted kept)) =
      { u with path := .rooted (if kept = [] then [""] else kept) } := by
  have hunbroken : (Path.render (.rooted kept)).toList.filter
      (fun c => !(c == '\t' || c == '\n' || c == '\r')) = (Path.render (.rooted kept)).toList :=
    List.filter_eq_self.mpr fun c hc => isBreak_of_visible (render_path_chars hkept c hc).1
  rw [h.setPath_eq, unbroken, hunbroken]
  cases kept with
  | nil => rfl
  | cons s rest =>
      rw [Path.parse_render (by decide) hkept (List.cons_ne_nil s rest),
        if_neg (List.cons_ne_nil s rest)]

end Url

namespace UrlCorrection

open Url

/-- What is left of a path is its parent, if the path ends in the segment. -/
theorem stripped?_eq_some_iff {suffix path parent : String} :
    stripped? suffix path = some parent ↔ Path.EndsIn path parent suffix := by
  rw [stripped?]
  constructor
  · intro h
    split at h
    next front last hcut =>
      split at h
      next hlast =>
        cases h
        subst hlast
        obtain ⟨htrimmed, hwhole⟩ := Text.cutLast?_eq_some_iff.mp hcut
        obtain ⟨⟨n, htext⟩, hend⟩ := Text.dropEndWhile_eq_iff.mp htrimmed
        refine ⟨⟨n, ?_⟩, ?_, ?_⟩
        · simpa using htext
        · simpa using hwhole
        · rintro hempty
          obtain rfl : last = [] := by simpa using hempty
          simp at hend
      next => cases h
    next => cases h
  · intro h
    obtain ⟨n, htext⟩ := h.text
    have htrimmed : Text.dropEndWhile (· == '/') path.toList =
        parent.toList ++ '/' :: suffix.toList :=
      Text.dropEndWhile_eq_iff.mpr ⟨⟨n, htext⟩, h.getLast?_ne⟩
    rw [htrimmed, Text.cutLast?_append h.whole]
    dsimp only
    rw [String.ofList_toList, if_pos rfl, String.ofList_toList]

theorem apply_of_stripped? {suffix parent : String} {url : Url}
    (h : stripped? suffix url.path.render = some parent) :
    (UrlCorrection.stripSegment suffix).apply false url = url.setPath parent := by
  simp [stripSegment, h]

theorem apply_of_not_stripped? {suffix : String} {url : Url}
    (h : stripped? suffix url.path.render = none) :
    (UrlCorrection.stripSegment suffix).apply false url = url := by
  simp [stripSegment, h]

/-- A strict correction leaves an HTTP URL alone.  Another one takes a segment off the end of the
path, once, if the path ends in it, and then the text of the path is what stood before the segment,
or a slash if nothing did; a URL whose path does not end in the segment it leaves alone. -/
theorem apply_stripSegment (suffix : String) {text : String} {url : Url}
    (h : Url.parse text = .ok url) (hscheme : url.scheme = "http" ∨ url.scheme = "https") :
    let corrected := (UrlCorrection.stripSegment suffix).apply
    corrected true url = url ∧
    (∀ parent, Path.EndsIn url.path.render parent suffix →
      ∃ kept n, url.path = .rooted (kept ++ suffix :: List.replicate n "") ∧
        corrected false url = { url with path := .rooted (if kept = [] then [""] else kept) } ∧
        (corrected false url).path.render = if parent = "" then "/" else parent) ∧
    ((∀ parent, ¬ Path.EndsIn url.path.render parent suffix) → corrected false url = url) := by
  intro corrected
  have hsettled : url.Settled := .of_http h hscheme
  refine ⟨rfl, fun parent hends => ?_, fun hnone => ?_⟩
  · have hmoved : corrected false url = url.setPath parent :=
      apply_of_stripped? (stripped?_eq_some_iff.mpr hends)
    obtain ⟨segments, hpath, _, hsegments⟩ := hsettled.path
    rw [hpath] at hends
    obtain ⟨kept, n, rfl, rfl⟩ := Path.segments_of_endsIn hsegments hends
    have hkept : Path.Settled .special kept :=
      fun s hs => hsegments s (List.mem_append_left _ hs)
    have hcorrected : corrected false url =
        { url with path := .rooted (if kept = [] then [""] else kept) } :=
      hmoved.trans (hsettled.setPath_render hkept)
    refine ⟨kept, n, hpath, hcorrected, ?_⟩
    rw [hcorrected]
    by_cases hempty : kept = []
    · rw [if_pos hempty, if_pos (Path.render_eq_empty_iff.mpr hempty)]
      rfl
    · rw [if_neg hempty, if_neg fun hrender => hempty (Path.render_eq_empty_iff.mp hrender)]
  · cases hstripped : stripped? suffix url.path.render with
    | none => exact apply_of_not_stripped? hstripped
    | some parent => exact absurd (stripped?_eq_some_iff.mp hstripped) (hnone parent)

/-- A path that ends otherwise than in the segment is left: in a longer one, in one behind it, in
two where one is looked for, or in none. -/
example : ∀ p ∈ [("v2.0", "/xv2.0"), ("v2.0", "/v2.0/v3/"), ("a/b", "/a/b"), ("", "/a/"), ("", "//")],
    stripped? p.1 p.2 = none := by
  decide +kernel

/-- Of two segments of an old version one is taken off, and everything else stays: an empty segment
before them, the password and the query. -/
theorem apply_stripSegment_repeated :
    let url : Url :=
      ⟨"https", some ⟨"u", some "p", some (.name "h"), some 5000⟩,
        .rooted ["", "v2.0", "v2.0", "", ""], some "", some "f"⟩
    Url.parse "https://u:p@h:5000//v2.0/v2.0//?#f" = .ok url ∧
      Path.EndsIn url.path.render "//v2.0" "v2.0" ∧
      ((UrlCorrection.stripSegment "v2.0").apply false url).path.render = "//v2.0" ∧
      (UrlCorrection.stripSegment "v2.0").apply true url = url := by
  intro url
  have hparse : Url.parse "https://u:p@h:5000//v2.0/v2.0//?#f" = .ok url := by decide +kernel
  have hends : Path.EndsIn url.path.render "//v2.0" "v2.0" :=
    ⟨⟨2, by decide +kernel⟩, by decide +kernel, by decide⟩
  obtain ⟨hstrict, hstrip, _⟩ := apply_stripSegment "v2.0" hparse (Or.inr rfl)
  obtain ⟨_, _, _, _, hrender⟩ := hstrip "//v2.0" hends
  exact ⟨hparse, hends, hrender, hstrict⟩

end UrlCorrection

end VersionedApi
