/-!
# Shell words

The words into which a shell cuts a command line.  Blanks separate words.  Between single quotes
every character stands for itself; between double quotes a backslash takes the meaning from a few
characters; outside quotes it does so from any character, and before a line break it joins two
lines.  A line that ends inside quotes or after a backslash has no words.

`scan_single` says what quoting is for: a text without a single quote, put between two, is taken
into a word as it is.
-/

namespace VersionedApi.Text.ShellWords

/-- Where the shell stands in a line. -/
inductive Quoting where
  /-- Outside quotes. -/
  | bare
  /-- Between single quotes. -/
  | single
  /-- Between double quotes. -/
  | double
deriving DecidableEq, Repr

/-- Whether a character separates words. -/
def isSeparator (c : Char) : Bool := c == ' ' || c == '\t' || c == '\n'

/-- Whether a backslash between double quotes takes the meaning from a character. -/
def isEscapable (c : Char) : Bool := ['$', '`', '"', '\\'].contains c

/-- A word with a character added at its end. -/
def push (word : Option (List Char)) (c : Char) : Option (List Char) := some (word.getD [] ++ [c])

/-- The words of the rest of a line, `word` being the one that was begun, if one was. -/
def scan : Quoting → Option (List Char) → List Char → Option (List (List Char))
  | .bare, word, [] => some word.toList
  | .bare, word, '\\' :: c :: cs =>
      if c = '\n' then scan .bare word cs else scan .bare (push word c) cs
  | .bare, word, c :: cs =>
      if c = '\\' then none
      else if c = '\'' then scan .single (some (word.getD [])) cs
      else if c = '"' then scan .double (some (word.getD [])) cs
      else if isSeparator c then (scan .bare none cs).map (word.toList ++ ·)
      else scan .bare (push word c) cs
  | .single, word, c :: cs =>
      if c = '\'' then scan .bare word cs else scan .single (push word c) cs
  | .double, word, '\\' :: c :: cs =>
      if c = '\n' then scan .double word cs
      else if isEscapable c then scan .double (push word c) cs
      else scan .double (push (push word '\\') c) cs
  | .double, word, c :: cs =>
      if c = '"' then scan .bare word cs else scan .double (push word c) cs
  | _, _, [] => none

/-- The words of a line. -/
def ofLine (line : String) : Option (List String) :=
  (scan .bare none line.toList).map (·.map String.ofList)

/-- Between single quotes a text without them is taken as it is. -/
theorem scan_single (word cs rest : List Char) (h : '\'' ∉ cs) :
    scan .single (some word) (cs ++ '\'' :: rest) = scan .bare (some (word ++ cs)) rest := by
  induction cs generalizing word with
  | nil => simp [scan]
  | cons c cs ih =>
      have hc : c ≠ '\'' := fun e => h (e ▸ List.mem_cons_self)
      have hcs : '\'' ∉ cs := fun m => h (List.mem_cons_of_mem c m)
      simp [scan, hc, push, ih (word ++ [c]) hcs]

end VersionedApi.Text.ShellWords
