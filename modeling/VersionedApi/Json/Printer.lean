import VersionedApi.Json.Basic
import VersionedApi.Decimal.Shortest

/-!
# Writing JSON

The compact form has no blanks; the indented form puts every item and member on a line of its own,
two spaces deeper than what holds it.  In a text the quote, the backslash and the controls below
the space are escaped and every other character stands for itself.
-/

namespace VersionedApi.Json

/-- Numbers with up to sixteen digits before the point, or up to four zeros after it, are set
positionally, others with a signed exponent. -/
def numberLayout : Layout := ⟨-4, 16, ['e'], ['+']⟩

/-- The text of a floating point number. -/
def doubleText (d : Double) : String := String.ofList (numberLayout.format d)

/-- The characters that stand for one character of a text. -/
def escapeChar (c : Char) : List Char :=
  if c = '"' then ['\\', '"']
  else if c = '\\' then ['\\', '\\']
  else if c = '\n' then ['\\', 'n']
  else if c = '\r' then ['\\', 'r']
  else if c = '\t' then ['\\', 't']
  else if c = '\x08' then ['\\', 'b']
  else if c = '\x0c' then ['\\', 'f']
  else if c.toNat < 0x20 then "\\u00".toList ++ Text.hexPair (UInt8.ofNat c.toNat)
  else [c]

/-- A text between quotes. -/
def quote (s : String) : String := String.ofList ('"' :: s.toList.flatMap escapeChar ++ ['"'])

/-- The text of a value that holds no others. -/
def scalar : Json → String
  | .null => "null"
  | .bool true => "true"
  | .bool false => "false"
  | .int n => if n < 0 then "-" ++ String.ofList (Text.decimal n.natAbs)
      else String.ofList (Text.decimal n.natAbs)
  | .double d => doubleText d
  | .str s => quote s
  | .arr _ => "[]"
  | .obj _ => "\x7b\x7d"

mutual

/-- The compact text of a value. -/
def render : Json → String
  | .arr items => "[" ++ ",".intercalate (renderItems items) ++ "]"
  | .obj members => "\x7b" ++ ",".intercalate (renderMembers members) ++ "\x7d"
  | v => scalar v

/-- The compact texts of the items of a list. -/
def renderItems : List Json → List String
  | [] => []
  | v :: vs => render v :: renderItems vs

/-- The compact texts of the members of an object. -/
def renderMembers : List (String × Json) → List String
  | [] => []
  | (name, v) :: rest => (quote name ++ ":" ++ render v) :: renderMembers rest

end

/-- A line break and the indentation of a depth. -/
def newline (depth : Nat) : String := "\n" ++ String.ofList (List.replicate (2 * depth) ' ')

mutual

/-- The indented text of a value that stands at a depth. -/
def pretty (depth : Nat) : Json → String
  | .arr (v :: vs) =>
      "[" ++ newline (depth + 1) ++
        ("," ++ newline (depth + 1)).intercalate (prettyItems (depth + 1) (v :: vs)) ++
        newline depth ++ "]"
  | .obj (m :: ms) =>
      "\x7b" ++ newline (depth + 1) ++
        ("," ++ newline (depth + 1)).intercalate (prettyMembers (depth + 1) (m :: ms)) ++
        newline depth ++ "\x7d"
  | v => scalar v

/-- The indented texts of the items of a list. -/
def prettyItems (depth : Nat) : List Json → List String
  | [] => []
  | v :: vs => pretty depth v :: prettyItems depth vs

/-- The indented texts of the members of an object. -/
def prettyMembers (depth : Nat) : List (String × Json) → List String
  | [] => []
  | (name, v) :: rest => (quote name ++ ": " ++ pretty depth v) :: prettyMembers depth rest

end

end VersionedApi.Json
