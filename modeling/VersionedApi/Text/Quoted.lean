import VersionedApi.Text.Printable
import VersionedApi.Text.Numeral

/-!
# Quoted texts

A text shown between double quotes, so that one line shows every character of it: the quote, the
backslash and the usual controls are escaped by a letter, other characters that have no form of
their own by their code point in braces.
-/

namespace VersionedApi.Text.Quoted

/-- The characters that stand for one character of a quoted text. -/
def encodeChar (c : Char) : List Char :=
  if c = '"' then ['\\', '"']
  else if c = '\\' then ['\\', '\\']
  else if c = '\n' then ['\\', 'n']
  else if c = '\r' then ['\\', 'r']
  else if c = '\t' then ['\\', 't']
  else if c.toNat = 0 then ['\\', '0']
  else if isPrintable c then [c]
  else "\\u\x7b".toList ++ hexadecimal c.toNat ++ "\x7d".toList

/-- The body of a quoted text, without its quotes. -/
def encode (cs : List Char) : List Char := cs.flatMap encodeChar

/-- A text between quotes. -/
def quote (s : String) : String := String.ofList ('"' :: encode s.toList ++ ['"'])

/-- An optional text, with its quotes if it is there. -/
def quote? : Option String → String
  | none => "None"
  | some s => "Some(" ++ quote s ++ ")"

end VersionedApi.Text.Quoted
