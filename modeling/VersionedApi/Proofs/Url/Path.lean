import VersionedApi.Url.Path
import VersionedApi.Proofs.Text.Pieces
import VersionedApi.Proofs.Url.Percent

/-!
# Settled paths

A path is settled if reading its text again gives the same segments: each segment is encoded, holds
no slash and is no dot.  Every path that was read from a text is settled (`settled_parse`), and a
settled path is read back from its text (`parse_render`).
-/

namespace VersionedApi.Url.Path

open Percent (Encoded)

/-- A segment as it is cut out of a text: encoded and without slashes. -/
structure IsPiece (kind : SchemeKind) (s : String) : Prop where
  /-- Nothing in it has to be encoded. -/
  encoded : Encoded Percent.pathSet s.toList
  /-- No slash stands in it. -/
  unbroken : ∀ c ∈ s.toList, kind.isSlash c = false

/-- A segment that stays where it is when its path is read again. -/
structure IsSettled (kind : SchemeKind) (s : String) : Prop extends IsPiece kind s where
  /-- It does not mean the current place. -/
  noSingleDot : isSingleDot s = false
  /-- It does not mean the place above. -/
  noDoubleDot : isDoubleDot s = false

/-- A list of settled segments. -/
def Settled (kind : SchemeKind) (segments : List String) : Prop := ∀ s ∈ segments, IsSettled kind s

variable {kind : SchemeKind}

theorem isSlash_slash (kind : SchemeKind) : kind.isSlash '/' = true := by
  cases kind <;> decide

theorem isSettled_empty (kind : SchemeKind) : IsSettled kind "" where
  encoded := fun _ h => nomatch h
  unbroken := fun _ h => nomatch h
  noSingleDot := by decide +kernel
  noDoubleDot := by decide +kernel

/-! ## Reading -/

/-- Escapes hold no slash. -/
theorem isSlash_of_mem_escapeChars (kind : SchemeKind) :
    ∀ c ∈ Percent.escapeChars, kind.isSlash c = false := by
  cases kind <;> exact Text.forall_mem_of_all (by decide)

theorem isPiece_of_mem_segmentsOf {cs : List Char} {s : String} (h : s ∈ segmentsOf kind cs) :
    IsPiece kind s := by
  obtain ⟨piece, hpiece, rfl⟩ := List.mem_map.mp h
  constructor
  · rw [String.toList_ofList]
    exact Percent.encoded_encode Percent.admits_pathSet piece
  · intro c hc
    rw [String.toList_ofList] at hc
    rcases Percent.mem_encode hc with ⟨hmem, _⟩ | hescape
    · exact (Text.mem_splitBy hpiece c hmem).2
    · exact isSlash_of_mem_escapeChars kind c hescape

theorem segmentsOf_ne_nil (kind : SchemeKind) (cs : List Char) : segmentsOf kind cs ≠ [] := by
  intro h
  exact Text.splitBy_ne_nil _ cs (List.map_eq_nil_iff.mp h)

section

variable {start : List String}

theorem settled_append {more : List String} (hstart : Settled kind start)
    (hmore : Settled kind more) : Settled kind (start ++ more) := by
  intro s hs
  rcases List.mem_append.mp hs with h | h
  · exact hstart s h
  · exact hmore s h

theorem settled_nil (kind : SchemeKind) : Settled kind [] := fun _ h => nomatch h

theorem settled_singleton {s : String} (h : IsSettled kind s) : Settled kind [s] := by
  intro t ht
  rw [List.mem_singleton] at ht
  exact ht ▸ h

theorem settled_parent (hstart : Settled kind start) : Settled kind (parent start) := by
  rw [parent]
  split
  · exact hstart
  · exact fun s hs => hstart s ((List.dropLast_sublist start).subset hs)

theorem settled_descend (hstart : Settled kind start) {s : String} (hs : IsPiece kind s) :
    Settled kind (descend start s) := by
  rw [descend]
  split
  next => exact settled_parent hstart
  next hdouble =>
    split
    next => exact hstart
    next hsingle =>
      exact settled_append hstart (settled_singleton
        ⟨hs, eq_false_of_ne_true hsingle, eq_false_of_ne_true hdouble⟩)

theorem settled_close (hstart : Settled kind start) {s : String} (hs : IsPiece kind s) :
    Settled kind (close start s) := by
  have hempty : Settled kind [""] := settled_singleton (isSettled_empty kind)
  rw [close]
  split
  next => exact settled_append (settled_parent hstart) hempty
  next hdouble =>
    split
    next => exact settled_append hstart hempty
    next hsingle =>
      exact settled_append hstart (settled_singleton
        ⟨hs, eq_false_of_ne_true hsingle, eq_false_of_ne_true hdouble⟩)

end

/-- Segments that are resolved from settled ones are settled. -/
theorem settled_resolve : ∀ {start segments : List String}, Settled kind start →
    (∀ s ∈ segments, IsPiece kind s) → Settled kind (resolve start segments)
  | _, [], hstart, _ => hstart
  | _, [s], hstart, h => settled_close hstart (h s List.mem_cons_self)
  | _, s :: next :: rest, hstart, h => by
      rw [resolve]
      · exact settled_resolve (settled_descend hstart (h s List.mem_cons_self))
          fun t ht => h t (List.mem_cons_of_mem s ht)
      · exact List.cons_ne_nil next rest

theorem close_ne_nil (start : List String) (s : String) : close start s ≠ [] := by
  rw [close]
  split
  · exact List.append_ne_nil_of_right_ne_nil _ (List.cons_ne_nil _ _)
  · split
    · exact List.append_ne_nil_of_right_ne_nil _ (List.cons_ne_nil _ _)
    · exact List.append_ne_nil_of_right_ne_nil _ (List.cons_ne_nil _ _)

theorem resolve_ne_nil : ∀ (start : List String) {segments : List String}, segments ≠ [] →
    resolve start segments ≠ []
  | _, [], h => absurd rfl h
  | start, [s], _ => close_ne_nil start s
  | start, s :: next :: rest, _ => by
      rw [resolve]
      · exact resolve_ne_nil _ (List.cons_ne_nil next rest)
      · exact List.cons_ne_nil next rest

theorem follow_eq_resolve (hkind : kind ≠ .file) (start : List String) (cs : List Char) :
    follow kind start cs = resolve start (segmentsOf kind cs) := by
  cases kind with
  | file => exact absurd rfl hkind
  | special => rfl
  | generic => rfl

theorem settled_follow (hkind : kind ≠ .file) {start : List String} (hstart : Settled kind start)
    (cs : List Char) : Settled kind (follow kind start cs) := by
  rw [follow_eq_resolve hkind]
  exact settled_resolve hstart fun _ hs => isPiece_of_mem_segmentsOf hs

theorem follow_ne_nil (hkind : kind ≠ .file) (start : List String) (cs : List Char) :
    follow kind start cs ≠ [] := by
  rw [follow_eq_resolve hkind]
  exact resolve_ne_nil start (segmentsOf_ne_nil kind cs)

/-- A special path is read from a text as settled segments, one at least. -/
theorem settled_parse (cs : List Char) :
    Settled .special (parse .special cs) ∧ parse .special cs ≠ [] := by
  have hkind : SchemeKind.special ≠ .file := fun h => nomatch h
  have hfollow (rest : List Char) :
      Settled .special (follow .special [] rest) ∧ follow .special [] rest ≠ [] :=
    ⟨settled_follow hkind (settled_nil _) rest, follow_ne_nil hkind [] rest⟩
  cases cs with
  | nil => exact ⟨settled_singleton (isSettled_empty _), List.cons_ne_nil _ _⟩
  | cons c rest =>
      rw [parse]
      split
      · exact hfollow rest
      · exact hfollow (c :: rest)

/-! ## Reading back -/

theorem resolve_of_settled : ∀ {start segments : List String}, Settled kind segments →
    resolve start segments = start ++ segments
  | start, [], _ => (List.append_nil start).symm
  | start, [s], h => by
      have hs := h s List.mem_cons_self
      rw [resolve, close, hs.noDoubleDot, hs.noSingleDot]
      rfl
  | start, s :: next :: rest, h => by
      have hs := h s List.mem_cons_self
      rw [resolve, descend, hs.noDoubleDot, hs.noSingleDot]
      · rw [resolve_of_settled fun t ht => h t (List.mem_cons_of_mem s ht)]
        exact List.append_assoc start [s] (next :: rest)
      · exact List.cons_ne_nil next rest

theorem segmentsOf_intercalate {segments : List String} (h : Settled kind segments)
    (hne : segments ≠ []) :
    segmentsOf kind (['/'].intercalate (segments.map String.toList)) = segments := by
  have hpieces : ∀ piece ∈ segments.map String.toList, ∀ c ∈ piece, kind.isSlash c = false := by
    intro piece hpiece
    obtain ⟨s, hs, rfl⟩ := List.mem_map.mp hpiece
    exact (h s hs).unbroken
  rw [segmentsOf, Text.splitBy_intercalate (isSlash_slash kind)
    (fun hnil => hne (List.map_eq_nil_iff.mp hnil)) hpieces, List.map_map]
  refine (List.map_congr_left fun s hs => ?_).trans (List.map_id segments)
  rw [Function.comp_apply, Percent.encode_of_encoded (h s hs).encoded, String.ofList_toList]
  rfl

theorem toList_render_rooted : ∀ segments : List String,
    (render (.rooted segments)).toList = segments.flatMap fun s => '/' :: s.toList
  | [] => rfl
  | s :: rest => by
      have hrest := toList_render_rooted rest
      rw [render] at hrest ⊢
      rw [List.map_cons, String.join_cons, String.toList_append, String.toList_append, hrest,
        List.flatMap_cons]
      rfl

theorem toList_render_cons : ∀ (s : String) (rest : List String),
    (render (.rooted (s :: rest))).toList =
      '/' :: ['/'].intercalate ((s :: rest).map String.toList)
  | s, [] => by
      rw [toList_render_rooted, List.flatMap_singleton, List.map_singleton,
        List.intercalate_singleton]
  | s, next :: rest => by
      have hrest := toList_render_cons next rest
      rw [toList_render_rooted] at hrest
      rw [toList_render_rooted, List.flatMap_cons, hrest]
      simp only [List.map_cons]
      rw [List.intercalate_cons_cons, List.append_assoc]
      rfl

/-- A settled path is read back from its text. -/
theorem parse_render (hkind : kind ≠ .file) {segments : List String} (h : Settled kind segments)
    (hne : segments ≠ []) : parse kind (render (.rooted segments)).toList = segments := by
  cases segments with
  | nil => exact absurd rfl hne
  | cons s rest =>
      have hsegments : follow kind [] (['/'].intercalate ((s :: rest).map String.toList)) =
          s :: rest := by
        rw [follow_eq_resolve hkind, segmentsOf_intercalate h hne, resolve_of_settled h]
        rfl
      rw [toList_render_cons, parse, if_pos (isSlash_slash kind), hsegments]

end VersionedApi.Url.Path
