import VersionedApi.Toml.Datetime
import VersionedApi.Toml.Number
import VersionedApi.Toml.Tree

/-!
# Reading TOML

A document is a sequence of lines: headers, keys with values, comments.  It is read in two steps.
`Document.lines` reads the lines, a value running over as many as it needs; `Document.assemble`
puts them together into tables and refuses what would define a name twice.

Every recursion runs on a count that starts above the number of characters, and each call takes at
least one character, so the count never decides the outcome.
-/

namespace VersionedApi.Toml

/-- A key with its value. -/
structure Pair where
  /-- The tables to which the key leads. -/
  path : List String
  /-- The name in the last of them. -/
  name : String
  /-- The value. -/
  value : Value

/-- The entries with the values of a list of pairs. -/
def Pair.fill (pairs : List Pair) (entries : Entries) : Option Entries :=
  pairs.foldlM (fun entries p => Node.assign p.name p.value p.path entries) entries

namespace Document

/-- The level of nesting at which a list or a table in braces is refused. -/
def depthLimit : Nat := 80

/-- The characters after the blanks, line ends and comments they begin with. -/
def skipGap : Nat → List Char → List Char
  | 0, cs => cs
  | count + 1, cs =>
      match skipLines cs with
      | '#' :: rest => skipGap count (rest.dropWhile isPlain)
      | rest => rest

/-- The rest after a word. -/
def word : List Char → List Char → Option (List Char)
  | [], cs => some cs
  | c :: letters, c' :: cs => if c' = c then word letters cs else none
  | _ :: _, [] => none

/-- A value that holds no others. -/
def plain (cs : List Char) : Reading Value :=
  match cs with
  | '"' :: _ => (text cs).map fun (s, rest) => (.text s, rest)
  | '\'' :: _ => (text cs).map fun (s, rest) => (.text s, rest)
  | 't' :: _ => (word "true".toList cs).map (.bool true, ·)
  | 'f' :: _ => (word "false".toList cs).map (.bool false, ·)
  | _ =>
      if Datetime.startsDate cs || Datetime.startsTime cs then
        (Datetime.read cs).map fun (written, rest) => (.datetime written, rest)
      else Number.read cs

/-- The table of the pairs between braces. -/
def closeTable (pairs : List Pair) : Option Value :=
  (Pair.fill pairs []).map fun entries => .table (Node.toValues entries)

mutual

/-- The value at the beginning of the characters.  `depth` brackets may still be opened. -/
def value : Nat → Nat → List Char → Reading Value
  | 0, _, _ => none
  | count + 1, depth, cs =>
      match cs with
      | '[' :: rest =>
          if depth ≤ 1 then none
          else items count (depth - 1) [] rest
      | '\x7b' :: rest =>
          if depth ≤ 1 then none
          else
            match skipSpace rest with
            | '\x7d' :: rest => some (.table [], rest)
            | rest => pairs count (depth - 1) [] rest
      | _ => plain cs

/-- The items of a list up to its closing bracket.  `read` holds those before, last one first. -/
def items : Nat → Nat → List Value → List Char → Reading Value
  | 0, _, _, _ => none
  | count + 1, depth, read, cs =>
      match skipGap cs.length cs with
      | ']' :: rest => some (.array read.reverse, rest)
      | rest =>
          match value count depth rest with
          | none => none
          | some (v, rest) =>
              match skipGap rest.length rest with
              | ',' :: rest => items count depth (v :: read) rest
              | ']' :: rest => some (.array (v :: read).reverse, rest)
              | _ => none

/-- The pairs of a table up to its closing brace. -/
def pairs : Nat → Nat → List Pair → List Char → Reading Value
  | 0, _, _, _ => none
  | count + 1, depth, read, cs =>
      match pair count depth cs with
      | none => none
      | some (p, rest) =>
          match skipSpace rest with
          | ',' :: rest => pairs count depth (p :: read) rest
          | '\x7d' :: rest => (closeTable (p :: read).reverse).map (·, rest)
          | _ => none

/-- A key with its value. -/
def pair : Nat → Nat → List Char → Reading Pair
  | 0, _, _ => none
  | count + 1, depth, cs =>
      match key cs with
      | some ((path, name), '=' :: rest) =>
          match value count depth (skipSpace rest) with
          | some (v, rest) => some (⟨path, name, v⟩, rest)
          | none => none
      | _ => none

end

/-! ## Lines -/

/-- A line of a document. -/
inductive Line where
  /-- The header of a table. -/
  | table (path : List String) (name : String)
  /-- The header of a table in a list of tables. -/
  | element (path : List String) (name : String)
  /-- A key with its value. -/
  | pair (p : Pair)

/-- A header, after its opening brackets, up to its closing ones. -/
def header (closing : List Char) (cs : List Char) : Reading (List String × String) :=
  (key cs).bind fun (k, rest) => (word closing rest).map (k, ·)

/-- A header or a key with its value. -/
def content (cs : List Char) : Reading Line :=
  match cs with
  | '[' :: '[' :: rest =>
      (header [']', ']'] rest).map fun ((path, name), rest) => (.element path name, rest)
  | '[' :: rest => (header [']'] rest).map fun ((path, name), rest) => (.table path name, rest)
  | _ => (pair (4 * cs.length + 4) depthLimit cs).map fun (p, rest) => (.pair p, rest)

/-- The lines of a document, without those that hold nothing. -/
def lines : Nat → List Char → Option (List Line)
  | 0, _ => none
  | count + 1, cs =>
      match skipSpace cs with
      | [] => some []
      | c :: rest =>
          match if c = '#' then finishLine? (c :: rest) else lineEnd? (c :: rest) with
          | some rest => lines count rest
          | none =>
              (content (c :: rest)).bind fun (line, rest) =>
              (finishLine? rest).bind fun rest =>
              (lines count rest).map (line :: ·)

/-! ## Tables -/

/-- The pairs at the beginning of the lines. -/
def leading : List Line → List Pair
  | .pair p :: rest => p :: leading rest
  | _ => []

/-- The entries with what a header opens; the pairs after it belong to it. -/
def section? (entries : Entries) (line : Line) (rest : List Line) : Option Entries :=
  match line with
  | .table path name => Node.reach (Node.openTable name (Pair.fill (leading rest))) path entries
  | .element path name => Node.reach (Node.openElement name (Pair.fill (leading rest))) path entries
  | .pair _ => some entries

/-- The entries with what all headers open. -/
def sections (entries : Entries) : List Line → Option Entries
  | [] => some entries
  | line :: rest => (section? entries line rest).bind fun entries => sections entries rest

/-- The tables that lines define. -/
def assemble (ls : List Line) : Option (List (String × Value)) :=
  ((Pair.fill (leading ls) []).bind fun entries => sections entries ls).map Node.toValues

/-- The characters without the mark of their encoding. -/
def skipMark : List Char → List Char
  | '\uFEFF' :: rest => rest
  | cs => cs

end Document

/-- The value of a document. -/
def parse (s : String) : Option Value :=
  let cs := Document.skipMark s.toList
  ((Document.lines (cs.length + 1) cs).bind Document.assemble).map .table

end VersionedApi.Toml
