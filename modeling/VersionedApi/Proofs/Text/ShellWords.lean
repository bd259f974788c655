import VersionedApi.Text.ShellWords

/-!
# Quoted command lines

A command line is made of arguments with blanks between them, some of them put between single
quotes.  A shell cuts it into these arguments if and only if none of those between quotes holds a
single quote itself (`scan_line_iff`).

Without single quotes the shell is followed along the line, argument by argument (`scan_line`).  The
other direction counts the characters that are no single quote.  The shell takes one for each such
character of a word and one for each end of a word but the last, and one more to get a single quote
into a word (`letters_scan_le`); a line of arguments has none to spare (`letters_line`).
-/

namespace VersionedApi.Text.ShellWords

/-! ## Arguments -/

/-- An argument of a command line. -/
inductive Argument where
  /-- Written as it is. -/
  | bare (text : List Char)
  /-- Written between single quotes. -/
  | quoted (text : List Char)

namespace Argument

/-- The text of an argument. -/
def text : Argument → List Char
  | bare text => text
  | quoted text => text

/-- What an argument is written as. -/
def written : Argument → List Char
  | bare text => text
  | quoted text => '\'' :: text ++ ['\'']

end Argument

/-- Whether a character stands for itself outside quotes. -/
def isPlain (c : Char) : Bool := c != '\\' && c != '\'' && c != '"' && !isSeparator c

/-- An argument that is written as it is has characters, and they all stand for themselves. -/
def Argument.Safe : Argument → Prop
  | bare text => text ≠ [] ∧ ∀ c ∈ text, isPlain c = true
  | quoted _ => True

/-- A line of arguments. -/
def line (args : List Argument) : List Char := [' '].intercalate (args.map Argument.written)

section

variable {q : Quoting} {word : Option (List Char)} {cs rest : List Char} {ws : List (List Char)}
  {args : List Argument}

theorem line_cons_cons (a b : Argument) (args : List Argument) :
    line (a :: b :: args) = a.written ++ ' ' :: line (b :: args) := by
  simp [line, List.intercalate_cons_cons]

theorem line_append {front rest : List Argument} (hfront : front ≠ []) (hrest : rest ≠ []) :
    line (front ++ rest) = line front ++ ' ' :: line rest := by
  induction front with
  | nil => exact absurd rfl hfront
  | cons a front ih =>
      cases front with
      | nil =>
          obtain ⟨b, rest, rfl⟩ := List.exists_cons_of_ne_nil hrest
          rw [List.singleton_append, line_cons_cons]
          simp [line]
      | cons b front =>
          rw [List.cons_append, List.cons_append, line_cons_cons, line_cons_cons,
            ← List.cons_append, ih (List.cons_ne_nil _ _), List.append_assoc, List.cons_append]

/-- A line of lines is a line of all their arguments. -/
theorem line_flatten {parts : List (List Argument)} (h : ∀ part ∈ parts, part ≠ []) :
    [' '].intercalate (parts.map line) = line parts.flatten := by
  induction parts with
  | nil => rfl
  | cons part parts ih =>
      have hpart := h part List.mem_cons_self
      cases parts with
      | nil => simp
      | cons next parts =>
          have ih := ih fun p hp => h p (List.mem_cons_of_mem _ hp)
          have hnext : next ≠ [] := h next (List.mem_cons_of_mem _ List.mem_cons_self)
          rw [List.flatten_cons, line_append hpart (by simp [hnext]), ← ih]
          simp [List.intercalate_cons_cons]

/-! ## A line without single quotes in its words -/

theorem scan_cons_of_isPlain {c : Char} (h : isPlain c = true) :
    scan .bare word (c :: rest) = scan .bare (push word c) rest := by
  simp only [isPlain, Bool.and_eq_true, bne_iff_ne, ne_eq, Bool.not_eq_true'] at h
  obtain ⟨⟨⟨hback, hsingle⟩, hdouble⟩, hsep⟩ := h
  rw [scan]
  · simp [hback, hsingle, hdouble, hsep]
  · exact fun _ _ hc _ => hback hc

theorem scan_plain (h : ∀ c ∈ cs, isPlain c = true) (front : List Char) :
    scan .bare (some front) (cs ++ rest) = scan .bare (some (front ++ cs)) rest := by
  induction cs generalizing front with
  | nil => rw [List.nil_append, List.append_nil]
  | cons c cs ih =>
      rw [List.cons_append, scan_cons_of_isPlain (h c List.mem_cons_self), push, Option.getD_some,
        ih (fun d hd => h d (List.mem_cons_of_mem _ hd)), List.append_assoc, List.singleton_append]

theorem scan_written {a : Argument} (hsafe : a.Safe) (h : '\'' ∉ a.text) (rest : List Char) :
    scan .bare none (a.written ++ rest) = scan .bare (some a.text) rest := by
  cases a with
  | bare text =>
      obtain ⟨hne, hplain⟩ := hsafe
      cases text with
      | nil => exact absurd rfl hne
      | cons c text =>
          have hrest : ∀ d ∈ text, isPlain d = true := fun d hd =>
            hplain d (List.mem_cons_of_mem _ hd)
          show scan .bare none (c :: (text ++ rest)) = _
          rw [scan_cons_of_isPlain (hplain c List.mem_cons_self)]
          exact scan_plain hrest [c]
  | quoted text =>
      show scan .bare none ('\'' :: (text ++ ['\''] ++ rest)) = _
      have hopen : scan .bare none ('\'' :: (text ++ ['\''] ++ rest)) =
          scan .single (some []) (text ++ '\'' :: rest) := by simp [scan]
      rw [hopen, scan_single [] text rest h]
      rfl

theorem scan_line (hsafe : ∀ a ∈ args, a.Safe) (h : ∀ a ∈ args, '\'' ∉ a.text) :
    scan .bare none (line args) = some (args.map Argument.text) := by
  induction args with
  | nil => rfl
  | cons a args ih =>
      have hfirst := scan_written (hsafe a List.mem_cons_self) (h a List.mem_cons_self)
      cases args with
      | nil =>
          have := hfirst []
          rw [List.append_nil] at this
          simpa [line, scan] using this
      | cons b args =>
          have hrest := ih (fun a ha => hsafe a (List.mem_cons_of_mem _ ha))
            (fun a ha => h a (List.mem_cons_of_mem _ ha))
          have hblank : ∀ word rest, scan .bare (some word) (' ' :: rest) =
              (scan .bare none rest).map (word :: ·) := by
            intro word rest
            simp [scan, isSeparator]
          rw [line_cons_cons, hfirst, hblank, hrest]
          rfl

/-! ## The count -/

/-- The number of characters that are no single quote. -/
def letters (cs : List Char) : Nat := cs.countP (· != '\'')

@[simp] theorem letters_nil : letters [] = 0 := rfl

@[simp] theorem letters_cons (c : Char) (cs : List Char) :
    letters (c :: cs) = letters cs + if c = '\'' then 0 else 1 := by
  by_cases h : c = '\'' <;> simp [letters, h]

@[simp] theorem letters_append (cs ds : List Char) : letters (cs ++ ds) = letters cs + letters ds :=
  List.countP_append

@[simp] theorem letters_push (word : Option (List Char)) (c : Char) :
    letters ((push word c).getD []) = letters (word.getD []) + if c = '\'' then 0 else 1 := by
  simp [push]

/-- One if a single quote gets into a word behind what it has already, or if there are double quotes
to be closed. -/
def surplus (q : Quoting) (word : Option (List Char)) (ws : List (List Char)) : Nat :=
  if q = .double ∨ ('\'' ∈ ws.flatten ∧ '\'' ∉ word.getD []) then 1 else 0

theorem surplus_le (q : Quoting) (word : Option (List Char)) (ws : List (List Char)) :
    surplus q word ws ≤ 1 := by
  rw [surplus]
  split
  next => exact Nat.le_refl 1
  next => exact Nat.zero_le 1

@[simp] theorem surplus_double : surplus .double word ws = 1 := by simp [surplus]

@[simp] theorem surplus_single : surplus .single word ws = surplus .bare word ws := by
  simp [surplus]

@[simp] theorem surplus_begun : surplus q (some (word.getD [])) ws = surplus q word ws := rfl

theorem surplus_push {c : Char} (h : c ≠ '\'') :
    surplus q (push word c) ws = surplus q word ws := by
  simp [surplus, push, Ne.symm h]

/-- The words after one that has ended hold the single quotes that are new. -/
theorem surplus_cons (w : List Char) (ws : List (List Char)) :
    surplus .bare (some w) (w :: ws) ≤ surplus .bare none ws := by
  rw [surplus, surplus]
  split
  next h =>
    obtain ⟨hmem, hnot⟩ := h.resolve_left (by decide)
    have hws : '\'' ∈ ws.flatten := (List.mem_append.mp hmem).resolve_left hnot
    simp [hws]
  next => exact Nat.zero_le _

/-- What a shell takes from a line for the words it cuts, those that are begun included. -/
theorem letters_scan_le (h : scan q word cs = some ws) :
    letters ws.flatten + ws.length + surplus q word ws ≤
      letters cs + letters (word.getD []) + 1 := by
  fun_induction scan q word cs generalizing ws with
  -- the end of the line
  | case1 word =>
      cases h
      cases word <;> simp [surplus]
  -- a backslash outside quotes
  | case2 word cs ih =>
      have hrest := ih h
      simp only [letters_cons, Char.reduceEq, reduceIte]
      omega
  | case3 word c cs _ ih =>
      have hrest := ih h
      have hone := surplus_le .bare word ws
      rw [letters_push] at hrest
      simp only [letters_cons, Char.reduceEq, reduceIte]
      by_cases hquote : c = '\''
      · omega
      · rw [surplus_push hquote] at hrest
        omega
  | case4 => cases h
  -- quotes are opened
  | case5 word cs _ _ ih =>
      have hrest := ih h
      simpa using hrest
  | case6 word cs _ _ _ ih =>
      have hrest := ih h
      have hone := surplus_le .bare word ws
      rw [surplus_double, Option.getD_some] at hrest
      simp only [letters_cons, Char.reduceEq, reduceIte]
      omega
  -- a word ends
  | case7 word c cs _ _ hquote _ _ ih =>
      obtain ⟨rest, hrest, rfl⟩ := Option.map_eq_some_iff.mp h
      have hrest := ih hrest
      rw [letters_cons, if_neg hquote]
      cases word with
      | none =>
          show letters rest.flatten + rest.length + surplus .bare none rest ≤ _
          omega
      | some w =>
          have hone := surplus_cons w rest
          simp only [Option.toList_some, List.singleton_append, List.flatten_cons, letters_append,
            List.length_cons, Option.getD_some, Option.getD_none, letters_nil] at hrest ⊢
          omega
  | case8 word c cs _ _ hquote _ _ ih =>
      have hrest := ih h
      rw [surplus_push hquote, letters_push] at hrest
      rw [letters_cons]
      omega
  -- between single quotes
  | case9 word cs ih =>
      have hrest := ih h
      simpa using hrest
  | case10 word c cs hquote ih =>
      have hrest := ih h
      rw [surplus_single, surplus_push hquote, letters_push] at hrest
      rw [surplus_single, letters_cons]
      omega
  -- between double quotes
  | case11 word cs ih =>
      have hrest := ih h
      simp only [letters_cons, Char.reduceEq, reduceIte]
      omega
  | case12 word c cs _ _ ih =>
      have hrest := ih h
      rw [surplus_double, letters_push] at hrest
      simp only [surplus_double, letters_cons, Char.reduceEq, reduceIte]
      omega
  | case13 word c cs _ _ ih =>
      have hrest := ih h
      simp only [surplus_double, letters_push, letters_cons, Char.reduceEq, reduceIte] at hrest ⊢
      omega
  | case14 word cs _ ih =>
      have hrest := ih h
      simp only [surplus_double, letters_cons, Char.reduceEq, reduceIte]
      omega
  | case15 word c cs _ _ ih =>
      have hrest := ih h
      rw [surplus_double, letters_push] at hrest
      rw [surplus_double, letters_cons]
      omega
  | case16 => cases h

/-! ## A line that is cut into its arguments -/

theorem letters_written (a : Argument) : letters a.written = letters a.text := by
  cases a with
  | bare => rfl
  | quoted text => simp [Argument.written, Argument.text]

theorem letters_line (h : args ≠ []) :
    letters (line args) + 1 = letters (args.map Argument.text).flatten + args.length := by
  induction args with
  | nil => exact absurd rfl h
  | cons a args ih =>
      cases args with
      | nil => simp [line, letters_written]
      | cons b args =>
          have hrest := ih (List.cons_ne_nil _ _)
          rw [line_cons_cons, List.map_cons, List.flatten_cons, letters_append, letters_append,
            letters_written, letters_cons, List.length_cons]
          simp only [Char.reduceEq, reduceIte]
          omega

/-- A line is cut into its arguments if and only if none of them holds a single quote. -/
theorem scan_line_iff (hsafe : ∀ a ∈ args, a.Safe) :
    scan .bare none (line args) = some (args.map Argument.text) ↔
      ∀ a ∈ args, '\'' ∉ a.text := by
  refine ⟨fun h => ?_, scan_line hsafe⟩
  intro a ha hmem
  have hle := letters_scan_le h
  have hline := letters_line (List.ne_nil_of_mem ha)
  have hone : surplus .bare none (args.map Argument.text) = 1 := by
    have hflat : '\'' ∈ (args.map Argument.text).flatten :=
      List.mem_flatten.mpr ⟨_, List.mem_map_of_mem ha, hmem⟩
    simp [surplus, hflat]
  rw [hone, List.length_map, Option.getD_none, letters_nil] at hle
  omega

theorem ofLine_eq_some_iff {line : String} {words : List String} :
    ofLine line = some words ↔ scan .bare none line.toList = some (words.map String.toList) := by
  have hread : (words.map String.toList).map String.ofList = words := by simp
  have hwrite : ∀ ws : List (List Char), (ws.map String.ofList).map String.toList = ws := by simp
  rw [ofLine, Option.map_eq_some_iff]
  constructor
  · rintro ⟨ws, hws, rfl⟩
    rw [hws, hwrite]
  · exact fun h => ⟨_, h, hread⟩

end

end VersionedApi.Text.ShellWords
