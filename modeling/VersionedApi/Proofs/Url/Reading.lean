import VersionedApi.Proofs.Url.Authority
import VersionedApi.Proofs.Url.Path

/-!
# URLs read back

A URL of a special scheme is settled if each of its parts is.  Every such URL that was read from a
text is settled (`settled_parse`), and a settled URL is read back from its text (`parse_render`).
-/

namespace VersionedApi.Url

open VersionedApi.Text

open Percent (Encoded)

/-- A URL of a special scheme that its text stands for. -/
structure Settled (u : Url) : Prop where
  /-- The scheme is special. -/
  special : u.kind = .special
  /-- There is an authority, and it is settled. -/
  authority : ∃ a, u.authority = some a ∧ a.Settled u.scheme
  /-- The path has segments, which are settled. -/
  path : ∃ segments, u.path = .rooted segments ∧ segments ≠ [] ∧ Path.Settled .special segments
  /-- Nothing in the query has to be encoded. -/
  query : ∀ q, u.query = some q → Encoded Percent.specialQuerySet q.toList
  /-- Nothing in the fragment has to be encoded. -/
  fragment : ∀ f, u.fragment = some f → Encoded Percent.fragmentSet f.toList

/-! ## Schemes -/

theorem schemeKind_eq_special_iff {scheme : String} :
    schemeKind scheme = .special ↔ scheme ∈ ["http", "ws", "https", "wss", "ftp"] := by
  constructor
  · intro h
    rw [schemeKind] at h
    split at h
    next => cases h
    next =>
      split at h
      next hport =>
        rw [defaultPort?] at hport
        simp only [List.mem_cons, List.not_mem_nil, or_false]
        split at hport
        next hs =>
          rw [Bool.or_eq_true, decide_eq_true_eq, decide_eq_true_eq] at hs
          rcases hs with hs | hs
          · exact Or.inl hs
          · exact Or.inr (Or.inl hs)
        next =>
          split at hport
          next hs =>
            rw [Bool.or_eq_true, decide_eq_true_eq, decide_eq_true_eq] at hs
            rcases hs with hs | hs
            · exact Or.inr (Or.inr (Or.inl hs))
            · exact Or.inr (Or.inr (Or.inr (Or.inl hs)))
          next =>
            split at hport
            next hs => exact Or.inr (Or.inr (Or.inr (Or.inr hs)))
            next => cases hport
      next => cases h
  · have hall : ∀ s ∈ ["http", "ws", "https", "wss", "ftp"], schemeKind s = .special := by
      decide
    exact hall scheme

theorem splitScheme?_special {scheme : String} (h : schemeKind scheme = .special)
    (rest : List Char) : splitScheme? (scheme.toList ++ ':' :: rest) = some (scheme, rest) := by
  have hmem := schemeKind_eq_special_iff.mp h
  simp only [List.mem_cons, List.not_mem_nil, or_false] at hmem
  rcases hmem with rfl | rfl | rfl | rfl | rfl <;> rfl

theorem visible_scheme {scheme : String} (h : schemeKind scheme = .special) :
    ∀ c ∈ scheme.toList, 0x20 < c.toNat := by
  have hall : ∀ s ∈ ["http", "ws", "https", "wss", "ftp"],
      s.toList.all (fun c => decide (0x20 < c.toNat)) = true := by
    decide
  exact forall_mem_of_all (hall scheme (schemeKind_eq_special_iff.mp h))

/-! ## Reading -/

theorem withAuthority_eq_ok_iff {scheme : String} {body : List Char} {parts : Parts} {u : Url} :
    withAuthority scheme body parts = .ok u ↔
      ∃ a, parseAuthority scheme (body.takeWhile fun c => !(schemeKind scheme).isSlash c)
        (!(body.dropWhile fun c => !(schemeKind scheme).isSlash c).isEmpty || parts.query.isSome ||
          parts.fragment.isSome) = .ok a ∧
        assemble scheme (some a) (.rooted (Path.parse (schemeKind scheme)
          (body.dropWhile fun c => !(schemeKind scheme).isSlash c))) parts = u :=
  Outcome.map_eq_ok_iff

/-- A file URL that has no base is a file URL. -/
theorem scheme_parseFile {parts : Parts} {u : Url} (h : parseFile none parts = .ok u) :
    u.scheme = "file" := by
  have hhost {cs : List Char} (h : fileWithHost cs parts = .ok u) : u.scheme = "file" := by
    rw [fileWithHost] at h
    split at h
    next => cases h; rfl
    next =>
      obtain ⟨_, _, rfl⟩ := Outcome.map_eq_ok_iff.mp h
      rfl
  rw [parseFile] at h
  dsimp only [Option.filter_none] at h
  split at h
  next =>
    split at h
    next =>
      split at h
      next =>
        split at h
        next => exact hhost h
        next => cases h; rfl
      next => cases h; rfl
    next => cases h; rfl
  next => cases h; rfl

/-- A URL without a base has the scheme that its text begins with. -/
theorem scheme_parseAfterScheme {scheme : String} {parts : Parts} {u : Url}
    (h : parseAfterScheme none scheme parts = .ok u) : u.scheme = scheme := by
  rw [parseAfterScheme] at h
  split at h
  next hfile =>
    rw [scheme_parseFile h]
    rw [schemeKind] at hfile
    split at hfile
    next hs => exact hs.symm
    next => split at hfile <;> cases hfile
  next =>
    obtain ⟨_, _, rfl⟩ := withAuthority_eq_ok_iff.mp h
    rfl
  next =>
    split at h
    next =>
      obtain ⟨_, _, rfl⟩ := withAuthority_eq_ok_iff.mp h
      rfl
    next => cases h; rfl
    next => cases h; rfl

theorem settled_assemble {scheme : String} (hkind : schemeKind scheme = .special) {a : Authority}
    (ha : a.Settled scheme) {segments : List String} (hne : segments ≠ [])
    (hsegments : Path.Settled .special segments) (parts : Parts) :
    (assemble scheme (some a) (.rooted segments) parts).Settled where
  special := hkind
  authority := ⟨a, rfl, ha⟩
  path := ⟨segments, rfl, hne, hsegments⟩
  query := by
    intro q hq
    obtain ⟨cs, _, rfl⟩ := Option.map_eq_some_iff.mp hq
    rw [encodeQuery, hkind, String.toList_ofList]
    exact Percent.encoded_encode (Percent.admits_querySet .special) cs
  fragment := by
    intro f hf
    obtain ⟨cs, _, rfl⟩ := Option.map_eq_some_iff.mp hf
    rw [encodeFragment, String.toList_ofList]
    exact Percent.encoded_encode Percent.admits_fragmentSet cs

theorem settled_withAuthority {scheme : String} (hkind : schemeKind scheme = .special)
    {body : List Char} {parts : Parts} {u : Url} (h : withAuthority scheme body parts = .ok u) :
    u.Settled := by
  obtain ⟨a, ha, rfl⟩ := withAuthority_eq_ok_iff.mp h
  rw [hkind]
  obtain ⟨hsegments, hne⟩ := Path.settled_parse (body.dropWhile fun c => !SchemeKind.special.isSlash c)
  exact settled_assemble hkind (settled_parseAuthority hkind ha) hne hsegments parts

/-- Every URL of a special scheme that is read is settled. -/
theorem settled_parse {text : String} {u : Url} (h : parse text = .ok u) (hkind : u.kind = .special) :
    u.Settled := by
  rw [parse, parseWith] at h
  split at h
  next scheme rest _ =>
    have hscheme : schemeKind scheme = .special := by
      rw [← scheme_parseAfterScheme h]
      exact hkind
    rw [parseAfterScheme, hscheme] at h
    exact settled_withAuthority hscheme h
  next => cases h

theorem Settled.of_http {text : String} {u : Url} (h : parse text = .ok u)
    (hscheme : u.scheme = "http" ∨ u.scheme = "https") : u.Settled := by
  refine settled_parse h (schemeKind_eq_special_iff.mpr ?_)
  rcases hscheme with hs | hs
  · rw [hs]
    decide
  · rw [hs]
    decide

/-! ## Reading back -/

theorem dropWhile_of_none {p : Char → Bool} {cs : List Char} (h : ∀ c ∈ cs, p c = false) :
    cs.dropWhile p = cs := by
  cases cs with
  | nil => rfl
  | cons c cs => exact List.dropWhile_cons_of_neg (by rw [h c List.mem_cons_self]; decide)

/-- A visible character is no tab and no line break. -/
theorem isBreak_of_visible {c : Char} (hc : 0x20 < c.toNat) :
    (!(c == '\t' || c == '\n' || c == '\r')) = true := by
  rw [Bool.not_eq_true', Bool.or_eq_false_iff, Bool.or_eq_false_iff, beq_eq_false_iff_ne,
    beq_eq_false_iff_ne, beq_eq_false_iff_ne]
  refine ⟨⟨?_, ?_⟩, ?_⟩
  all_goals
    rintro rfl
    exact absurd hc (by decide)

/-- Nothing is left out of a text without controls and blanks. -/
theorem clean_of_visible {text : String} (h : ∀ c ∈ text.toList, 0x20 < c.toNat) :
    clean text = text.toList := by
  have hlow : ∀ c ∈ text.toList, decide (c.toNat ≤ 0x20) = false := by
    intro c hc
    exact decide_eq_false (Nat.not_le.mpr (h c hc))
  have hlow' : ∀ c ∈ text.toList.reverse, decide (c.toNat ≤ 0x20) = false :=
    fun c hc => hlow c (List.mem_reverse.mp hc)
  rw [clean, dropWhile_of_none hlow, dropWhile_of_none hlow', List.reverse_reverse,
    List.filter_eq_self.mpr fun c hc => isBreak_of_visible (h c hc)]

/-- The text of a query or a fragment with the sign that begins it. -/
def tailText (sign : Char) : Option String → List Char
  | some text => sign :: text.toList
  | none => []

theorem visible_tailText {sign : Char} {part : Option String} {set : Percent.EncodeSet}
    (hsign : 0x20 < sign.toNat) (hset : ∀ n < 33, set (Char.ofNat n) = true)
    (hpart : ∀ text, part = some text → Encoded set text.toList) :
    ∀ c ∈ tailText sign part, 0x20 < c.toNat := by
  intro c hc
  cases part with
  | none => cases hc
  | some text =>
      rcases List.mem_cons.mp hc with rfl | hc
      · exact hsign
      · exact (hpart text rfl).visible hset c hc

theorem parts_append {body : List Char} {query fragment : Option String}
    (hbody : '?' ∉ body ∧ '#' ∉ body) (hquery : ∀ q, query = some q → '#' ∉ q.toList) :
    Parts.of (body ++ tailText '?' query ++ tailText '#' fragment) =
      ⟨body, query.map String.toList, fragment.map String.toList⟩ := by
  have hfront : '#' ∉ body ++ tailText '?' query := by
    intro hmem
    rcases List.mem_append.mp hmem with hmem | hmem
    · exact hbody.2 hmem
    · cases query with
      | none => cases hmem
      | some q =>
          rcases List.mem_cons.mp hmem with h | h
          · exact absurd h (by decide)
          · exact hquery q rfl h
  have hinner : cut? '?' (body ++ tailText '?' query) =
      query.map fun q => (body, q.toList) := by
    cases query with
    | none =>
        rw [tailText, List.append_nil, cut?_eq_none hbody.1]
        rfl
    | some q =>
        rw [tailText, cut?_append hbody.1]
        rfl
  rw [Parts.of]
  cases fragment with
  | none =>
      rw [tailText, List.append_nil, cut?_eq_none hfront]
      dsimp only
      rw [hinner]
      cases query with
      | none => rw [tailText, List.append_nil]; rfl
      | some q => rfl
  | some f =>
      rw [tailText, cut?_append hfront]
      dsimp only
      rw [hinner]
      cases query with
      | none => rw [tailText, List.append_nil]; rfl
      | some q => rfl

theorem toList_render {u : Url} {a : Authority} {segments : List String}
    (ha : u.authority = some a) (hpath : u.path = .rooted segments) :
    u.render.toList = u.scheme.toList ++ ':' ::
      ('/' :: '/' :: (a.render.toList ++ (Path.render (.rooted segments)).toList) ++
        tailText '?' u.query ++ tailText '#' u.fragment) := by
  have hslashes : "//".toList = ['/', '/'] := rfl
  have hcolon : ":".toList = [':'] := rfl
  have hempty : "".toList = [] := rfl
  have hquery (q : String) : ("?" ++ q).toList = '?' :: q.toList := String.toList_append
  have hfragment (f : String) : ("#" ++ f).toList = '#' :: f.toList := String.toList_append
  rw [render, front, ha, hpath]
  cases u.query with
  | none =>
      cases u.fragment with
      | none =>
          simp only [String.toList_append, hslashes, hcolon, hempty, tailText, List.append_assoc,
            List.cons_append, List.nil_append]
      | some f =>
          simp only [String.toList_append, hslashes, hcolon, hempty, hfragment, tailText,
            List.append_assoc, List.cons_append, List.nil_append]
  | some q =>
      cases u.fragment with
      | none =>
          simp only [String.toList_append, hslashes, hcolon, hempty, hquery, tailText,
            List.append_assoc, List.cons_append, List.nil_append]
      | some f =>
          simp only [String.toList_append, hslashes, hcolon, hquery, hfragment, tailText,
            List.append_assoc, List.cons_append, List.nil_append]

/-- The text of a settled path holds no sign that ends it. -/
theorem render_path_chars {segments : List String} (h : Path.Settled .special segments) :
    ∀ c ∈ (Path.render (.rooted segments)).toList, 0x20 < c.toNat ∧ c ≠ '?' ∧ c ≠ '#' := by
  intro c hc
  rw [Path.toList_render_rooted] at hc
  obtain ⟨s, hs, hc⟩ := List.mem_flatMap.mp hc
  rcases List.mem_cons.mp hc with rfl | hc
  · decide
  · have hencoded := (h s hs).encoded
    refine ⟨hencoded.visible (by decide) c hc, ?_, ?_⟩
    · rintro rfl
      exact hencoded.notMem (by decide) hc
    · rintro rfl
      exact hencoded.notMem (by decide) hc

section

variable {u : Url} {a : Authority} {segments : List String}

/-- The text of a settled authority and path holds no sign that ends it. -/
theorem body_chars (hauthority : a.Settled u.scheme) (hsegments : Path.Settled .special segments) :
    ∀ c ∈ '/' :: '/' :: (a.render.toList ++ (Path.render (.rooted segments)).toList),
      0x20 < c.toNat ∧ c ≠ '?' ∧ c ≠ '#' := by
  intro c hc
  rcases List.mem_cons.mp hc with rfl | hc
  · decide
  · rcases List.mem_cons.mp hc with rfl | hc
    · decide
    · rcases List.mem_append.mp hc with hc | hc
      · obtain ⟨hvisible, hmem⟩ := hauthority.render_chars.2 c hc
        refine ⟨hvisible, ?_, ?_⟩
        · rintro rfl
          exact hmem (by decide)
        · rintro rfl
          exact hmem (by decide)
      · exact render_path_chars hsegments c hc

theorem Settled.visible (h : u.Settled) : ∀ c ∈ u.render.toList, 0x20 < c.toNat := by
  obtain ⟨a, ha, hauthority⟩ := h.authority
  obtain ⟨segments, hpath, _, hsegments⟩ := h.path
  intro c hc
  rw [toList_render ha hpath] at hc
  rcases List.mem_append.mp hc with hc | hc
  · exact visible_scheme h.special c hc
  · rcases List.mem_cons.mp hc with rfl | hc
    · decide
    · rcases List.mem_append.mp hc with hc | hc
      · rcases List.mem_append.mp hc with hc | hc
        · exact (body_chars hauthority hsegments c hc).1
        · exact visible_tailText (by decide) (by decide) h.query c hc
      · exact visible_tailText (by decide) (by decide) h.fragment c hc

/-- The parts of the text behind the scheme. -/
theorem Settled.parts (h : u.Settled) (hauthority : a.Settled u.scheme)
    (hsegments : Path.Settled .special segments) :
    Parts.of ('/' :: '/' :: (a.render.toList ++ (Path.render (.rooted segments)).toList) ++
        tailText '?' u.query ++ tailText '#' u.fragment) =
      ⟨'/' :: '/' :: (a.render.toList ++ (Path.render (.rooted segments)).toList),
        u.query.map String.toList, u.fragment.map String.toList⟩ := by
  have hchars := body_chars hauthority hsegments
  refine parts_append
    ⟨fun hmem => (hchars _ hmem).2.1 rfl, fun hmem => (hchars _ hmem).2.2 rfl⟩ ?_
  exact fun q hq => (h.query q hq).notMem (by decide)

/-- The text of an authority holds no slash. -/
theorem isSlash_authority (hauthority : a.Settled u.scheme) :
    ∀ c ∈ a.render.toList, SchemeKind.special.isSlash c = false := by
  intro c hc
  have hmem := (hauthority.render_chars.2 c hc).2
  rw [SchemeKind.isSlash, Bool.or_eq_false_iff, beq_eq_false_iff_ne, beq_eq_false_iff_ne]
  · constructor
    · rintro rfl
      exact hmem (by decide)
    · rintro rfl
      exact hmem (by decide)
  · exact fun h => nomatch h

/-- The slashes in front of an authority are taken off, and no more. -/
theorem dropWhile_slashes (hauthority : a.Settled u.scheme) (rest : List Char) :
    ('/' :: '/' :: (a.render.toList ++ rest)).dropWhile (fun c => c == '/' || c == '\\') =
      a.render.toList ++ rest := by
  rw [List.dropWhile_cons_of_pos (by decide), List.dropWhile_cons_of_pos (by decide)]
  cases hcs : a.render.toList with
  | nil => exact absurd hcs hauthority.render_chars.1
  | cons c cs =>
      have hc : (c == '/' || c == '\\') = false :=
        isSlash_authority hauthority c (hcs ▸ List.mem_cons_self)
      rw [List.cons_append, List.dropWhile_cons_of_neg (by rw [hc]; exact Bool.false_ne_true)]

/-- A text of an authority and a path is cut where the path begins. -/
theorem cut_path (hauthority : a.Settled u.scheme) (hne : segments ≠ []) :
    (a.render.toList ++ (Path.render (.rooted segments)).toList).takeWhile
        (fun c => !SchemeKind.special.isSlash c) = a.render.toList ∧
      (a.render.toList ++ (Path.render (.rooted segments)).toList).dropWhile
        (fun c => !SchemeKind.special.isSlash c) = (Path.render (.rooted segments)).toList := by
  have hinside : ∀ c ∈ a.render.toList, (!SchemeKind.special.isSlash c) = true := by
    intro c hc
    rw [isSlash_authority hauthority c hc]
    rfl
  cases segments with
  | nil => exact absurd rfl hne
  | cons s rest =>
      rw [List.takeWhile_append_of_pos hinside, List.dropWhile_append_of_pos hinside,
        Path.toList_render_cons, List.takeWhile_cons_of_neg (by decide),
        List.dropWhile_cons_of_neg (by decide), List.append_nil]
      exact ⟨rfl, rfl⟩

theorem map_encode_settled {part : Option String} {set : Percent.EncodeSet}
    (h : ∀ text, part = some text → Encoded set text.toList) :
    (part.map String.toList).map (fun cs => String.ofList (Percent.encode set cs)) = part := by
  cases part with
  | none => rfl
  | some text =>
      rw [Option.map_some, Option.map_some, Percent.encode_of_encoded (h text rfl),
        String.ofList_toList]

/-- A settled URL is read back from its text. -/
theorem parse_render (h : u.Settled) : parse u.render = .ok u := by
  obtain ⟨a, ha, hauthority⟩ := h.authority
  obtain ⟨segments, hpath, hne, hsegments⟩ := h.path
  have hkind : schemeKind u.scheme = .special := h.special
  obtain ⟨htake, hdrop⟩ := cut_path hauthority hne
  rw [parse, parseWith, clean_of_visible h.visible, toList_render ha hpath,
    splitScheme?_special hkind]
  dsimp only
  rw [h.parts hauthority hsegments, parseAfterScheme, hkind]
  dsimp only
  rw [dropWhile_slashes hauthority]
  refine withAuthority_eq_ok_iff.mpr ⟨a, ?_, ?_⟩
  · rw [hkind, htake]
    exact parseAuthority_render hkind hauthority _
  · have hquery : (u.query.map String.toList).map (encodeQuery .special) = u.query :=
      map_encode_settled h.query
    have hfragment : (u.fragment.map String.toList).map encodeFragment = u.fragment :=
      map_encode_settled h.fragment
    rw [hkind, hdrop, Path.parse_render (by decide) hsegments hne, assemble, hkind, hquery,
      hfragment, ← ha, ← hpath]

end

end VersionedApi.Url
