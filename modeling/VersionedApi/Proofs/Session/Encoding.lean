import Mathlib.Data.Bool.AllAny
import Mathlib.Data.List.Basic
import VersionedApi.Proofs.Text.Pieces
import VersionedApi.Proofs.Text.Trim
import VersionedApi.Proofs.Text.Utf8
import VersionedApi.Session.Response

/-!
# The encoding that a type names

A type of a body is written as a media type and parameters, with semicolons between them, blanks
around every sign, and possibly with pieces in between that are no parameters (`Renders`).  A
parameter is a name and a value, which is a token or stands between quotes.

The encoding of a response is the value of the first parameter that is named `charset`, however the
type is written (`Response.encoding?_of_renders`).  Cutting at semicolons gives the pieces as they
were put together, since none of them holds one; of a piece that is a parameter the name and the
value are read back (`charset?_written`), and a piece without an equals sign is passed over.
-/

namespace VersionedApi

open VersionedApi.Text

/-! ## Types and how they are written -/

/-- One or more characters that may stand in a name. -/
structure Token where
  /-- The characters. -/
  text : List Char
  /-- There is one. -/
  nonempty : text ≠ []
  /-- Each may stand in a name. -/
  chars : ∀ c ∈ text, HeaderName.isTokenChar c = true

/-- Whether a character may stand between quotes: printable ASCII without the signs that end a
quoted text, escape a character or end a parameter. -/
def IsQuotable (c : Char) : Prop :=
  0x20 ≤ c.toNat ∧ c.toNat < 0x7F ∧ c ≠ ';' ∧ c ≠ '"' ∧ c ≠ '\\'

instance : DecidablePred IsQuotable := fun _ => inferInstanceAs (Decidable (_ ∧ _))

/-- The value of a parameter. -/
inductive ParameterValue where
  /-- A token. -/
  | token (t : Token)
  /-- A text between quotes. -/
  | quoted (text : List Char) (chars : ∀ c ∈ text, IsQuotable c)

namespace ParameterValue

/-- The value without quotes. -/
def text : ParameterValue → List Char
  | .token t => t.text
  | .quoted text _ => text

/-- The value as it is written. -/
def written : ParameterValue → List Char
  | .token t => t.text
  | .quoted text _ => '"' :: (text ++ ['"'])

end ParameterValue

/-- A parameter of a type. -/
structure Parameter where
  /-- The name. -/
  name : Token
  /-- The value. -/
  value : ParameterValue

/-- Whether a parameter is named `charset`, in any letter case. -/
def Parameter.isCharset (p : Parameter) : Bool :=
  p.name.text.map Char.toLower = ['c', 'h', 'a', 'r', 's', 'e', 't']

/-- A type without its parameters. -/
structure MediaType where
  /-- The kind of body. -/
  type : Token
  /-- The format. -/
  subtype : Token

/-- Spaces and tabs, or nothing. -/
structure Gap where
  /-- The characters. -/
  text : List Char
  /-- Each is a space or a tab. -/
  chars : ∀ c ∈ text, c = ' ' ∨ c = '\t'

/-- No gap. -/
def Gap.none : Gap := ⟨[], fun _ hc => nomatch hc⟩

/-- Whether a character may stand in a piece: printable ASCII or a tab, and no semicolon. -/
def IsPieceChar (c : Char) : Prop := (c = '\t' ∨ 0x20 ≤ c.toNat ∧ c.toNat < 0x7F) ∧ c ≠ ';'

instance : DecidablePred IsPieceChar := fun _ => inferInstanceAs (Decidable (_ ∧ _))

/-- The pieces that write some parameters, in order. -/
inductive Writes : List Parameter → List (List Char) → Prop where
  /-- None. -/
  | nil : Writes [] []
  /-- A parameter, with gaps before and behind its name and its value. -/
  | parameter (p : Parameter) (g₁ g₂ g₃ g₄ : Gap) {ps : List Parameter} {pieces : List (List Char)}
    (h : Writes ps pieces) :
    Writes (p :: ps)
      ((g₁.text ++ p.name.text ++ g₂.text ++ '=' :: (g₃.text ++ p.value.written ++ g₄.text)) ::
        pieces)
  /-- A piece without an equals sign, which is no parameter. -/
  | stray (cs : List Char) (hcs : ∀ c ∈ cs, IsPieceChar c) (heq : '=' ∉ cs) {ps : List Parameter}
    {pieces : List (List Char)} (h : Writes ps pieces) : Writes ps (cs :: pieces)

/-- A text writes a type with parameters: the pieces with semicolons between them. -/
inductive Renders (m : MediaType) (ps : List Parameter) : List Char → Prop where
  /-- The media type with gaps around it, and the pieces of the parameters. -/
  | intro (g₁ g₂ : Gap) {pieces : List (List Char)} (h : Writes ps pieces) :
    Renders m ps ([';'].intercalate
      ((g₁.text ++ m.type.text ++ '/' :: m.subtype.text ++ g₂.text) :: pieces))

/-! ## Characters -/

/-- Letters, digits and the signs of a token are visible and none of the signs of a type. -/
theorem HeaderName.visible_of_isTokenChar {c : Char} (h : HeaderName.isTokenChar c = true) :
    0x20 < c.toNat ∧ c.toNat < 0x7F ∧ c ≠ ';' ∧ c ≠ '=' ∧ c ≠ '"' := by
  have hsigns : ∀ d ∈ "!#$%&'*+-.^_`|~".toList,
      0x20 < d.toNat ∧ d.toNat < 0x7F ∧ d ≠ ';' ∧ d ≠ '=' ∧ d ≠ '"' :=
    List.all_iff_forall_prop.mp (by decide)
  have hne : ∀ d : Char, c.toNat ≠ d.toNat → c ≠ d := fun d hd e => hd (congrArg Char.toNat e)
  have hbounds : ∀ lo hi : Char, lo ≤ c → c ≤ hi → lo.toNat ≤ c.toNat ∧ c.toNat ≤ hi.toNat :=
    fun _ _ hlo hhi => ⟨hlo, hhi⟩
  rw [isTokenChar] at h
  simp only [Bool.or_eq_true, Bool.and_eq_true, decide_eq_true_eq, List.contains_iff_mem] at h
  rcases h with ((⟨hlo, hhi⟩ | ⟨hlo, hhi⟩) | ⟨hlo, hhi⟩) | hsign
  case inr => exact hsigns c hsign
  -- The signs of a type lie outside the three ranges.
  all_goals
    obtain ⟨hlo, hhi⟩ := hbounds _ _ hlo hhi
    simp only [Char.reduceToNat] at hlo hhi
    have hother : c.toNat ≠ 0x3B ∧ c.toNat ≠ 0x3D ∧ c.toNat ≠ 0x22 := by omega
    exact ⟨by omega, by omega, hne ';' hother.1, hne '=' hother.2.1, hne '"' hother.2.2⟩

namespace Gap

variable {g : Gap} {c : Char}

theorem isBlank (h : c ∈ g.text) : isBlank c = true := by
  rcases g.chars c h with rfl | rfl
  · decide
  · decide

theorem isPieceChar (h : c ∈ g.text) : IsPieceChar c := by
  rcases g.chars c h with rfl | rfl
  · decide
  · decide

theorem eq_notMem (g : Gap) : '=' ∉ g.text := fun hmem =>
  (g.chars '=' hmem).elim (by decide) (by decide)

end Gap

namespace Token

variable {t : Token} {c : Char}

theorem isBlank_eq_false (h : c ∈ t.text) : isBlank c = false := by
  obtain ⟨hlo, hhi, -⟩ := HeaderName.visible_of_isTokenChar (t.chars c h)
  exact isBlank_of_visible hlo hhi

theorem isPieceChar (h : c ∈ t.text) : IsPieceChar c := by
  obtain ⟨hlo, hhi, hsemicolon, -⟩ := HeaderName.visible_of_isTokenChar (t.chars c h)
  exact ⟨Or.inr ⟨Nat.le_of_lt hlo, hhi⟩, hsemicolon⟩

theorem eq_notMem (t : Token) : '=' ∉ t.text := fun hmem =>
  (HeaderName.visible_of_isTokenChar (t.chars _ hmem)).2.2.2.1 rfl

theorem quote_notMem (t : Token) : '"' ∉ t.text := fun hmem =>
  (HeaderName.visible_of_isTokenChar (t.chars _ hmem)).2.2.2.2 rfl

end Token

namespace ParameterValue

theorem written_ne_nil : ∀ v : ParameterValue, v.written ≠ []
  | .token t => t.nonempty
  | .quoted _ _ => List.cons_ne_nil _ _

theorem isPieceChar {v : ParameterValue} {c : Char} (h : c ∈ v.written) : IsPieceChar c := by
  cases v with
  | token t => exact t.isPieceChar h
  | quoted text chars =>
      rcases List.mem_cons.mp h with rfl | h
      · decide
      rcases List.mem_append.mp h with h | h
      · obtain ⟨hlo, hhi, hsemicolon, -⟩ := chars c h
        exact ⟨Or.inr ⟨hlo, hhi⟩, hsemicolon⟩
      · rw [List.mem_singleton.mp h]
        decide

/-- A value as it is written begins and ends with no blank. -/
theorem isBlank_ends {v : ParameterValue} {c : Char}
    (h : v.written.head? = some c ∨ v.written.getLast? = some c) : isBlank c = false := by
  cases v with
  | token t => exact t.isBlank_eq_false (h.elim List.mem_of_head? List.mem_of_getLast?)
  | quoted text chars =>
      have hc : c = '"' := by
        rcases h with h | h
        · exact (Option.some.inj h).symm
        · rw [written, ← List.cons_append, List.getLast?_concat] at h
          exact (Option.some.inj h).symm
      rw [hc]
      decide

/-- Without the quotes around it a value is its text. -/
theorem trimBy_quotes (v : ParameterValue) : trimBy (· == '"') v.written = v.text := by
  have hquote : ∀ c ∈ ['"'], (c == '"') = true := fun c hc =>
    beq_iff_eq.mpr (List.mem_singleton.mp hc)
  cases v with
  | token t =>
      exact trimBy_eq_self fun c hc => beq_eq_false_iff_ne.mpr fun e => t.quote_notMem (e ▸ hc)
  | quoted text chars =>
      have hchars : ∀ c ∈ text, (c == '"') = false := fun c hc =>
        beq_eq_false_iff_ne.mpr (chars c hc).2.2.2.1
      exact trimBy_between hquote hquote (fun c hc => hchars c (List.mem_of_head? hc))
        fun c hc => hchars c (List.mem_of_getLast? hc)

end ParameterValue

/-! ## A piece read back -/

/-- Gaps around a text are blanks to be taken off. -/
theorem trim_gaps (g₁ g₂ : Gap) {core : List Char}
    (hcore : ∀ c, core.head? = some c ∨ core.getLast? = some c → isBlank c = false) :
    trim (g₁.text ++ core ++ g₂.text) = core := by
  rw [List.append_assoc]
  exact trimBy_between (fun _ => g₁.isBlank) (fun _ => g₂.isBlank) (fun c hc => hcore c (Or.inl hc))
    fun c hc => hcore c (Or.inr hc)

section

variable (p : Parameter) (g₁ g₂ g₃ g₄ : Gap)

theorem trim_written :
    trim (g₁.text ++ p.name.text ++ g₂.text ++ '=' :: (g₃.text ++ p.value.written ++ g₄.text)) =
      p.name.text ++ g₂.text ++ '=' :: (g₃.text ++ p.value.written) := by
  obtain ⟨first, rest, hname⟩ := List.exists_cons_of_ne_nil p.name.nonempty
  have hends : ∀ c,
      (p.name.text ++ g₂.text ++ '=' :: (g₃.text ++ p.value.written)).head? = some c ∨
      (p.name.text ++ g₂.text ++ '=' :: (g₃.text ++ p.value.written)).getLast? = some c →
        isBlank c = false := by
    rintro c (hc | hc)
    · refine p.name.isBlank_eq_false (List.mem_of_head? ?_)
      rwa [hname] at hc ⊢
    · refine p.value.isBlank_ends (Or.inr ?_)
      rwa [← List.cons_append, ← List.append_assoc,
        List.getLast?_append_of_ne_nil _ p.value.written_ne_nil] at hc
  rw [← trim_gaps g₁ g₄ hends]
  simp only [List.append_assoc, List.cons_append]

/-- Of a parameter the name and the value are read back, whatever blanks stand around them. -/
theorem Response.charset?_written :
    charset? (g₁.text ++ p.name.text ++ g₂.text ++ '=' :: (g₃.text ++ p.value.written ++ g₄.text)) =
      if p.isCharset then some p.value.text else none := by
  have heq : '=' ∉ p.name.text ++ g₂.text := List.not_mem_append p.name.eq_notMem g₂.eq_notMem
  have hname : trim (p.name.text ++ g₂.text) = p.name.text :=
    trim_gaps .none g₂ fun c hc =>
      p.name.isBlank_eq_false (hc.elim List.mem_of_head? List.mem_of_getLast?)
  have hvalue : trim (g₃.text ++ p.value.written) = p.value.written := by
    rw [← List.append_nil (g₃.text ++ p.value.written)]
    exact trim_gaps g₃ .none fun c => p.value.isBlank_ends
  rw [charset?, trim_written, cut?_append heq]
  dsimp only
  rw [hname, hvalue, p.value.trimBy_quotes]
  by_cases hcharset : p.isCharset = true
  · have hsame : eqIgnoreAsciiCase p.name.text "charset".toList = true :=
      beq_iff_eq.mpr (of_decide_eq_true hcharset)
    rw [if_pos hsame, if_pos hcharset]
  · have hother : ¬eqIgnoreAsciiCase p.name.text "charset".toList = true := fun h =>
      hcharset (decide_eq_true (beq_iff_eq.mp h))
    rw [if_neg hother, if_neg hcharset]

end

/-- A piece without an equals sign names no encoding. -/
theorem Response.charset?_stray {cs : List Char} (h : '=' ∉ cs) : charset? cs = none := by
  have hcut : cut? '=' (trim cs) = none := cut?_eq_none fun hmem => h (mem_of_mem_trimBy hmem)
  rw [charset?, hcut]

/-! ## The pieces of a type -/

namespace Writes

variable {ps : List Parameter} {pieces : List (List Char)}

theorem isPieceChar (h : Writes ps pieces) : ∀ piece ∈ pieces, ∀ c ∈ piece, IsPieceChar c := by
  induction h with
  | nil => exact fun _ hpiece => nomatch hpiece
  | parameter p g₁ g₂ g₃ g₄ _ ih =>
      refine List.forall_mem_cons.mpr ⟨?_, ih⟩
      simp only [List.forall_mem_append, List.forall_mem_cons]
      exact ⟨⟨⟨fun _ => g₁.isPieceChar, fun _ => p.name.isPieceChar⟩, fun _ => g₂.isPieceChar⟩,
        by decide, ⟨fun _ => g₃.isPieceChar, fun _ => p.value.isPieceChar⟩,
        fun _ => g₄.isPieceChar⟩
  | stray cs hcs _ _ ih => exact List.forall_mem_cons.mpr ⟨hcs, ih⟩

/-- The first piece that names an encoding is that of the first parameter named `charset`. -/
theorem findSome?_charset? (h : Writes ps pieces) :
    pieces.findSome? Response.charset? = (ps.find? Parameter.isCharset).map (·.value.text) := by
  induction h with
  | nil => rfl
  | parameter p g₁ g₂ g₃ g₄ _ ih =>
      rw [List.findSome?_cons, Response.charset?_written, ih]
      cases hcharset : p.isCharset with
      | true => rw [if_pos rfl, List.find?_cons_of_pos hcharset, Option.map_some]
      | false => rw [if_neg Bool.false_ne_true, List.find?_cons_of_neg (by rw [hcharset]; decide)]
  | stray cs _ heq _ ih => rw [List.findSome?_cons, Response.charset?_stray heq, ih]

end Writes

namespace Renders

variable {m : MediaType} {ps : List Parameter} {cs : List Char}

/-- A written type is cut into its pieces again. -/
theorem splitOn_semicolon (h : Renders m ps cs) :
    ∃ front pieces, splitOn ';' cs = front :: pieces ∧ Writes ps pieces ∧
      ∀ piece ∈ front :: pieces, ∀ c ∈ piece, IsPieceChar c := by
  cases h with
  | @intro g₁ g₂ pieces h =>
      have hfront : ∀ c ∈ g₁.text ++ m.type.text ++ '/' :: m.subtype.text ++ g₂.text,
          IsPieceChar c := by
        simp only [List.forall_mem_append, List.forall_mem_cons]
        exact ⟨⟨⟨fun _ => g₁.isPieceChar, fun _ => m.type.isPieceChar⟩, by decide,
          fun _ => m.subtype.isPieceChar⟩, fun _ => g₂.isPieceChar⟩
      have hchars := List.forall_mem_cons.mpr ⟨hfront, h.isPieceChar⟩
      refine ⟨_, _, splitOn_intercalate ';' _ (List.cons_ne_nil _ _) ?_, h, hchars⟩
      exact fun piece hpiece hmem => (hchars piece hpiece _ hmem).2 rfl

/-- A written type is printable. -/
theorem printable (h : Renders m ps cs) :
    ∀ c ∈ cs, c = '\t' ∨ 0x20 ≤ c.toNat ∧ c.toNat < 0x7F := by
  obtain ⟨front, pieces, hsplit, -, hchars⟩ := h.splitOn_semicolon
  intro c hc
  rw [← intercalate_splitOn ';' cs, hsplit] at hc
  rcases mem_intercalate hc with rfl | ⟨piece, hpiece, hc⟩
  · exact Or.inr (by decide)
  · exact (hchars piece hpiece c hc).1

theorem charsetOf? (h : Renders m ps cs) :
    Response.charsetOf? cs = (ps.find? Parameter.isCharset).map (·.value.text) := by
  obtain ⟨front, pieces, hsplit, hpieces, -⟩ := h.splitOn_semicolon
  rw [Response.charsetOf?, hsplit, List.drop_one, List.tail_cons, hpieces.findSome?_charset?]

end Renders

/-! ## The encoding of a response -/

/-- An octet of a printable character is printable and is read as the character. -/
theorem HeaderValue.octet_of_printable {c : Char}
    (h : c = '\t' ∨ 0x20 ≤ c.toNat ∧ c.toNat < 0x7F) :
    ∃ b, String.utf8EncodeChar c = [b] ∧ isPrintable b = true ∧ Char.ofNat b.toNat = c := by
  have hlt : c.toNat < 0x7F := by
    rcases h with rfl | h
    · decide
    · exact h.2
  have hb : (UInt8.ofNat c.toNat).toNat = c.toNat := Utf8.toNat_ofNat_octet (by omega)
  refine ⟨UInt8.ofNat c.toNat, Utf8.utf8EncodeChar_of_ascii (by omega), ?_, ?_⟩
  · rcases h with rfl | ⟨hlo, hhi⟩
    · decide
    · have hlo : (0x20 : UInt8) ≤ UInt8.ofNat c.toNat := by
        rw [UInt8.le_iff_toNat_le, hb]
        exact hlo
      have hhi : UInt8.ofNat c.toNat < (0x7F : UInt8) := by
        rw [UInt8.lt_iff_toNat_lt, hb]
        exact hhi
      simp [isPrintable, hlo, hhi]
  · rw [hb, Char.ofNat_toNat]

/-- A value of printable characters is a text. -/
theorem HeaderValue.text?_of_printable {v : HeaderValue} {s : String}
    (hv : v.bytes = Utf8.encode s)
    (hs : ∀ c ∈ s.toList, c = '\t' ∨ 0x20 ≤ c.toNat ∧ c.toNat < 0x7F) : v.text? = some s := by
  have hread : ∀ cs : List Char, (∀ c ∈ cs, c = '\t' ∨ 0x20 ≤ c.toNat ∧ c.toNat < 0x7F) →
      (cs.flatMap String.utf8EncodeChar).all isPrintable = true ∧
        (cs.flatMap String.utf8EncodeChar).map (fun b => Char.ofNat b.toNat) = cs := by
    intro cs
    induction cs with
    | nil => exact fun _ => ⟨rfl, rfl⟩
    | cons c cs ih =>
        intro hcs
        obtain ⟨hc, hcs⟩ := List.forall_mem_cons.mp hcs
        obtain ⟨b, hb, hprintable, hchar⟩ := octet_of_printable hc
        obtain ⟨hall, hmap⟩ := ih hcs
        rw [List.flatMap_cons, hb, List.singleton_append, List.all_cons, List.map_cons, hprintable,
          hall, hmap, hchar]
        exact ⟨rfl, rfl⟩
  obtain ⟨hall, hmap⟩ := hread s.toList hs
  rw [text?, hv, Utf8.encode, if_pos hall, hmap, String.ofList_toList]

/-- The encoding of a response is the value of the first parameter of its type that is named
`charset`, however the type is written. -/
theorem Response.encoding?_of_renders {m : MediaType} {ps : List Parameter} {type : String}
    (h : Renders m ps type.toList) {r : Response} {v : HeaderValue}
    (hv : r.headers.get? .contentType = some v) (hbytes : v.bytes = Utf8.encode type) :
    r.encoding? = (ps.find? Parameter.isCharset).map fun p => String.ofList p.value.text := by
  rw [encoding?, hv, Option.bind_some, HeaderValue.text?_of_printable hbytes h.printable,
    Option.bind_some, h.charsetOf?, Option.map_map]
  rfl

/-- Of two parameters named `charset` the first one counts, behind a piece that is no parameter and
a parameter whose value holds the name. -/
theorem Response.encoding?_first_charset :
    let type :=
      "text/plain \t; flowed;profile = \"charset=a\";\tChArSeT =\t\"ISO 8859=1\" ;charset=utf-8"
    let token (s : String) (hs : s.toList ≠ [] ∧ s.toList.all HeaderName.isTokenChar = true) :
      Token := ⟨s.toList, hs.1, List.all_eq_true.mp hs.2⟩
    let quoted (s : String) (hs : s.toList.all (IsQuotable ·) = true) : ParameterValue :=
      .quoted s.toList (List.all_iff_forall_prop.mp hs)
    let media : MediaType := ⟨token "text" (by decide), token "plain" (by decide)⟩
    let profile : Parameter := ⟨token "profile" (by decide), quoted "charset=a" (by decide)⟩
    let latin : Parameter := ⟨token "ChArSeT" (by decide), quoted "ISO 8859=1" (by decide)⟩
    let unicode : Parameter := ⟨token "charset" (by decide), .token (token "utf-8" (by decide))⟩
    let url : Url := ⟨"http", some { host := some (.name "a") }, .rooted [""], none, none⟩
    let r : Response :=
      { status := 200, headers := ⟨[(.contentType, [{ bytes := Utf8.encode type }])]⟩, url,
        body := .buffered [], history := [] }
    Renders media [profile, latin, unicode] type.toList ∧ r.encoding? = some "ISO 8859=1" := by
  intro type token quoted media profile latin unicode url r
  let gap (cs : List Char) (h : cs.all (fun c => c = ' ' ∨ c = '\t') = true) : Gap :=
    ⟨cs, List.all_iff_forall_prop.mp h⟩
  let space : Gap := gap [' '] rfl
  let tab : Gap := gap ['\t'] rfl
  let spaceTab : Gap := gap [' ', '\t'] rfl
  have hflowed : ∀ c ∈ " flowed".toList, IsPieceChar c := List.all_iff_forall_prop.mp (by decide)
  have hpieces : Writes [profile, latin, unicode] _ :=
    .stray _ hflowed (by decide) <|
    .parameter profile .none space space .none <|
    .parameter latin tab space tab space <|
    .parameter unicode .none .none .none .none .nil
  have hrenders : Renders media [profile, latin, unicode] type.toList := by
    refine Eq.subst ?_ (@Renders.intro media _ .none spaceTab _ hpieces)
    decide
  exact ⟨hrenders, encoding?_of_renders hrenders (r := r) rfl rfl⟩

end VersionedApi
