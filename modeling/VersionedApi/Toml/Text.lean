import VersionedApi.Text.Numeral

/-!
# Texts and keys of TOML

The blanks, comments, line ends, texts and keys of a TOML document.  A text stands between quotes:
double ones for a text with escapes, single ones for a text as it is; three of them for a text of
several lines.  A line end is a line feed, with or without a carriage return in front, and becomes
a line feed in a text.

A reading takes a beginning of the characters and gives what it stands for and the rest.
-/

namespace VersionedApi.Toml

open VersionedApi.Text

/-- A reading of a beginning of the characters, with the rest. -/
abbrev Reading (α : Type) := Option (α × List Char)

/-- Whether a character is a blank within a line. -/
def isSpace (c : Char) : Bool := c == ' ' || c == '\t'

/-- The characters after the blanks they begin with. -/
def skipSpace (cs : List Char) : List Char := cs.dropWhile isSpace

/-- Whether a character may stand in a comment or a text: the tab, or no ASCII control. -/
def isPlain (c : Char) : Bool := c == '\t' || (0x20 ≤ c.toNat && c.toNat ≠ 0x7F)

/-- The rest after a line end. -/
def lineEnd? : List Char → Option (List Char)
  | '\n' :: rest => some rest
  | '\r' :: '\n' :: rest => some rest
  | _ => none

/-- The characters after a comment they may begin with. -/
def skipComment : List Char → List Char
  | '#' :: rest => rest.dropWhile isPlain
  | cs => cs

/-- The rest after the end of a line, which blanks and a comment may precede. -/
def finishLine? (cs : List Char) : Option (List Char) :=
  match skipComment (skipSpace cs) with
  | [] => some []
  | rest => lineEnd? rest

/-- The characters after the blanks and line ends they begin with. -/
def skipLines : List Char → List Char
  | [] => []
  | '\r' :: '\n' :: rest => skipLines rest
  | c :: rest => if isSpace c || c == '\n' then skipLines rest else c :: rest

/-! ## Texts -/

/-- The character whose code point a number of hexadecimal digits give. -/
def codePoint (width : Nat) (cs : List Char) : Reading Char :=
  let ds := (cs.take width).filterMap hexValue?
  let n := ds.foldl (fun n d => n * 16 + d) 0
  if ds.length = width ∧ n.isValidChar then some (Char.ofNat n, cs.drop width) else none

/-- The character that an escape stands for, after its backslash. -/
def escape : List Char → Reading Char
  | 'b' :: rest => some ('\x08', rest)
  | 't' :: rest => some ('\t', rest)
  | 'n' :: rest => some ('\n', rest)
  | 'f' :: rest => some ('\x0c', rest)
  | 'r' :: rest => some ('\r', rest)
  | '"' :: rest => some ('"', rest)
  | '\\' :: rest => some ('\\', rest)
  | 'u' :: rest => codePoint 4 rest
  | 'U' :: rest => codePoint 8 rest
  | _ => none

/-- A text of one line with escapes, after its quote.  `read` holds the characters so far, last
one first. -/
def basicText : Nat → List Char → List Char → Reading String
  | 0, _, _ => none
  | _ + 1, _, [] => none
  | _ + 1, read, '"' :: rest => some (String.ofList read.reverse, rest)
  | count + 1, read, '\\' :: rest =>
      (escape rest).bind fun (c, rest) => basicText count (c :: read) rest
  | count + 1, read, c :: rest => if isPlain c then basicText count (c :: read) rest else none

/-- A text of one line as it is, after its quote. -/
def literalText (cs : List Char) : Reading String :=
  match cs.dropWhile (fun c => c ≠ '\'' && isPlain c) with
  | '\'' :: rest => some (String.ofList (cs.takeWhile fun c => c ≠ '\'' && isPlain c), rest)
  | _ => none

/-- The characters without the line end they may begin with. -/
def skipLineEnd (cs : List Char) : List Char := (lineEnd? cs).getD cs

/-- How many quotes stand at the beginning. -/
def quotes (quote : Char) (cs : List Char) : Nat := (cs.takeWhile (· == quote)).length

/-- The text that a run of three or more quotes ends, with up to two of them belonging to it. -/
def closeText (quote : Char) (read cs : List Char) : String × List Char :=
  let own := min (quotes quote cs - 3) 2
  (String.ofList (read.reverse ++ List.replicate own quote), cs.drop (own + 3))

/-- A text of several lines, after its quotes.  Escapes are read if the quote is the double one; a
backslash at the end of a line stands for nothing and takes the blank characters after it along. -/
def longText (quote : Char) : Nat → List Char → List Char → Reading String
  | 0, _, _ => none
  | _ + 1, _, [] => none
  | count + 1, read, c :: rest =>
      if c = quote then
        if 3 ≤ quotes quote (c :: rest) then some (closeText quote read (c :: rest))
        else longText quote count (c :: read) rest
      else if c = '\\' && quote = '"' then
        match lineEnd? (skipSpace rest) with
        | some rest => longText quote count read (skipLines rest)
        | none => (escape rest).bind fun (c, rest) => longText quote count (c :: read) rest
      else
        match lineEnd? (c :: rest) with
        | some rest => longText quote count ('\n' :: read) rest
        | none => if isPlain c then longText quote count (c :: read) rest else none

/-- A text of one line. -/
def shortText (cs : List Char) : Reading String :=
  match cs with
  | '"' :: rest => basicText (rest.length + 1) [] rest
  | '\'' :: rest => literalText rest
  | _ => none

/-- A text. -/
def text (cs : List Char) : Reading String :=
  match cs with
  | '"' :: '"' :: '"' :: rest => longText '"' (rest.length + 1) [] (skipLineEnd rest)
  | '\'' :: '\'' :: '\'' :: rest => longText '\'' (rest.length + 1) [] (skipLineEnd rest)
  | _ => shortText cs

/-! ## Keys -/

/-- Whether a character may stand in a key without quotes. -/
def isBare (c : Char) : Bool :=
  isDigit c || ('a' ≤ c && c ≤ 'z') || ('A' ≤ c && c ≤ 'Z') || c == '_' || c == '-'

/-- One part of a key. -/
def keyPart (cs : List Char) : Reading String :=
  match cs.takeWhile isBare with
  | [] => shortText cs
  | name => some (String.ofList name, cs.dropWhile isBare)

/-- The number of parts at which a key is refused. -/
def keyLimit : Nat := 80

/-- The parts of a key, joined by points, with the blanks around them. -/
def keyParts : Nat → List Char → Reading (List String)
  | 0, _ => none
  | count + 1, cs =>
      (keyPart (skipSpace cs)).bind fun (part, rest) =>
      match skipSpace rest with
      | '.' :: rest => (keyParts count rest).map fun (parts, rest) => (part :: parts, rest)
      | rest => some ([part], rest)

/-- A key: the names that lead to its table, and its own. -/
def key (cs : List Char) : Reading (List String × String) :=
  (keyParts (cs.length + 1) cs).bind fun (parts, rest) =>
  match parts.getLast? with
  | some name => if parts.length < keyLimit then some ((parts.dropLast, name), rest) else none
  | none => none

end VersionedApi.Toml
