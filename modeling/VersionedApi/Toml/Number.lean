import VersionedApi.Toml.Basic
import VersionedApi.Toml.Text

/-!
# Numbers of TOML

Integers of 64 bits, in decimal or with the mark of another base, and floating point numbers, among
them those that are not finite.  Between two digits there may be an underscore.
-/

namespace VersionedApi.Toml.Number

open VersionedApi.Text

/-- Digits that follow a first one. -/
def moreDigits (isDigit : Char → Bool) : List Char → Reading (List Char)
  | [] => some ([], [])
  | '_' :: d :: rest =>
      if isDigit d then (moreDigits isDigit rest).map fun (ds, rest) => (d :: ds, rest) else none
  | d :: rest =>
      if isDigit d then (moreDigits isDigit rest).map fun (ds, rest) => (d :: ds, rest)
      else if d = '_' then none
      else some ([], d :: rest)

/-- One or more digits. -/
def digits (isDigit : Char → Bool) : List Char → Reading (List Char)
  | [] => none
  | d :: rest =>
      if isDigit d then (moreDigits isDigit rest).map fun (ds, rest) => (d :: ds, rest) else none

/-- The integer part of a decimal: a zero alone, or digits that begin with another one. -/
def integerPart : List Char → Reading (List Char)
  | '0' :: rest => some (['0'], rest)
  | cs => digits isDigit cs

/-- The integers of 64 bits. -/
def integer? (n : Int) : Option Value :=
  if -0x8000000000000000 ≤ n ∧ n < 0x8000000000000000 then some (.integer n) else none

/-- An integer in another base, after its mark. -/
def inBase (base : Nat) (cs : List Char) : Reading Value :=
  let isDigit (c : Char) : Bool := (hexValue? c).any (· < base)
  (digits isDigit cs).bind fun (ds, rest) =>
  (integer? ((ds.filterMap hexValue?).foldl (fun n d => n * base + d) 0 : Nat)).map (·, rest)

/-- An exponent, after its mark. -/
def exponent (cs : List Char) : Reading Int :=
  match cs with
  | '-' :: rest => (digits isDigit rest).map fun (ds, rest) => (-(decimalValue ds : Int), rest)
  | '+' :: rest => (digits isDigit rest).map fun (ds, rest) => (decimalValue ds, rest)
  | _ => (digits isDigit cs).map fun (ds, rest) => (decimalValue ds, rest)

/-- An exponent, if there is one. -/
def exponent? (cs : List Char) : Reading Int :=
  match cs with
  | 'e' :: rest => exponent rest
  | 'E' :: rest => exponent rest
  | _ => some (0, cs)

/-- Infinity of a sign. -/
def infinity (negative : Bool) : Double :=
  ⟨if negative then 0xFFF0000000000000 else 0x7FF0000000000000⟩

/-- The number that is none, with a sign. -/
def notANumber (negative : Bool) : Double :=
  ⟨if negative then 0xFFF8000000000000 else 0x7FF8000000000000⟩

/-- The floating point number of a decimal.  One beyond the largest is refused if it is positive,
and taken for infinity if it is negative. -/
def float (negative : Bool) (digits : List Char) (exponent : Int) : Option Value :=
  match Double.nearest? negative (decimalValue digits) exponent with
  | some d => some (.float d)
  | none => if negative then some (.float (infinity true)) else none

/-- A number without its sign. -/
def unsigned (negative : Bool) (cs : List Char) : Reading Value :=
  match cs with
  | 'i' :: 'n' :: 'f' :: rest => some (.float (infinity negative), rest)
  | 'n' :: 'a' :: 'n' :: rest => some (.float (notANumber negative), rest)
  | _ =>
      (integerPart cs).bind fun (whole, rest) =>
      match rest with
      | '.' :: rest =>
          (digits isDigit rest).bind fun (part, rest) =>
          (exponent? rest).bind fun (e, rest) =>
          (float negative (whole ++ part) (e - part.length)).map (·, rest)
      | 'e' :: rest =>
          (exponent rest).bind fun (e, rest) => (float negative whole e).map (·, rest)
      | 'E' :: rest =>
          (exponent rest).bind fun (e, rest) => (float negative whole e).map (·, rest)
      | _ =>
          let n : Int := decimalValue whole
          (integer? (if negative then -n else n)).map (·, rest)

/-- A number. -/
def read (cs : List Char) : Reading Value :=
  match cs with
  | '0' :: 'x' :: rest => inBase 16 rest
  | '0' :: 'o' :: rest => inBase 8 rest
  | '0' :: 'b' :: rest => inBase 2 rest
  | '+' :: rest => unsigned false rest
  | '-' :: rest => unsigned true rest
  | _ => unsigned false cs

end VersionedApi.Toml.Number
