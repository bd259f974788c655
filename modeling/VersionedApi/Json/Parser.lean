import VersionedApi.Json.Basic
import VersionedApi.Text.Utf8
import VersionedApi.Text.Numeral

/-!
# Reading JSON

A document is read from octets.  Reading fails either because the document is wrong at some octet
or because it ends too early; the first failure from the left decides.  A list or object nested
`depthLimit` deep is refused at its opening bracket.  The octets of a text are checked when its
closing quote is reached.

Every recursion runs on a count that starts above the number of octets, and each call takes at
least one octet or opens one bracket, so the count never decides the outcome.
-/

namespace VersionedApi.Json

/-- Why a document cannot be read. -/
inductive Malformed where
  /-- It is wrong at some octet. -/
  | wrong
  /-- It ends too early. -/
  | early
deriving DecidableEq, Repr

namespace Parser

/-- A reading of a beginning of the octets, with the rest. -/
abbrev Reading (α : Type) := Except Malformed (α × Bytes)

/-- The level of nesting at which a bracket is refused. -/
def depthLimit : Nat := 128

/-- The octet of an ASCII character. -/
def octet (c : Char) : UInt8 := UInt8.ofNat c.toNat

/-- Whether an octet is one of the four blanks between tokens. -/
def isSpace (b : UInt8) : Bool := b == 0x20 || b == 0x09 || b == 0x0A || b == 0x0D

/-- The octets after the blanks they begin with. -/
def skipSpace (bs : Bytes) : Bytes := bs.dropWhile isSpace

/-- Whether an octet is an ASCII digit. -/
def isDigit (b : UInt8) : Bool := 0x30 ≤ b && b ≤ 0x39

/-- The digits at the beginning, and the rest. -/
def digits (bs : Bytes) : List Char × Bytes :=
  ((bs.takeWhile isDigit).map fun b => Char.ofNat b.toNat, bs.dropWhile isDigit)

/-- The rest after the letters of a word, for the value that the word stands for. -/
def word (letters : List Char) (value : Json) (bs : Bytes) : Reading Json :=
  match letters, bs with
  | [], _ => .ok (value, bs)
  | _ :: _, [] => .error .early
  | c :: cs, b :: rest => if b = octet c then word cs value rest else .error .wrong

/-! ## Numbers -/

/-- The exponent at the beginning of the octets, after its mark. -/
def exponent (bs : Bytes) : Reading Int :=
  let (negative, bs) := match bs with
    | b :: rest =>
        if b = octet '-' then (true, rest) else if b = octet '+' then (false, rest) else (false, bs)
    | [] => (false, bs)
  match digits bs with
  | ([], []) => .error .early
  | ([], _ :: _) => .error .wrong
  | (ds, rest) =>
      let n : Int := Text.decimalValue ds
      .ok (if negative then -n else n, rest)

/-- Whether an octet marks an exponent. -/
def isExponentMark (b : UInt8) : Bool := b == octet 'e' || b == octet 'E'

/-- The largest integer of 64 bits. -/
def largestInteger : Nat := UInt64.size - 1

/-- Digits added to a significand as long as it stays an integer of 64 bits: the significand, and
how many digits were left out. -/
def accumulate (start : Nat) : List Char → Nat × Nat
  | [] => (start, 0)
  | d :: ds =>
      let next := start * 10 + Text.digitValue d
      if largestInteger < next then (start, (d :: ds).length) else accumulate next ds

/-- A numeral with a fraction or an exponent. -/
def real (negative : Bool) (significand : Nat) (scale : Int) (rest : Bytes) : Reading Json :=
  match Double.ofDecimal? negative significand scale with
  | some d => .ok (.double d, rest)
  | none => .error .wrong

/-- The rest of a number after its significand and scale: an exponent, or nothing. -/
def scaled (negative : Bool) (significand : Nat) (scale : Int) (bs : Bytes) : Reading Json :=
  match bs with
  | b :: rest =>
      if isExponentMark b then
        (exponent rest).bind fun (e, rest) => real negative significand (scale + e) rest
      else real negative significand scale bs
  | [] => real negative significand scale bs

/-- The fraction at the beginning of the octets, after its point.  `left` digits of the integer
part were left out of the significand. -/
def fraction (negative : Bool) (significand left : Nat) (bs : Bytes) : Reading Json :=
  match digits bs with
  | ([], []) => .error .early
  | ([], _ :: _) => .error .wrong
  | (ds, rest) =>
      let (s, dropped) := accumulate significand ds
      scaled negative s ((left : Int) - (ds.length - dropped : Nat)) rest

/-- A number without a fraction and an exponent, whose integer part was read completely. -/
def whole (negative : Bool) (n : Nat) (rest : Bytes) : Reading Json :=
  if negative then
    if n = 0 || 1 <<< 63 < n then real true n 0 rest else .ok (.int (-(n : Int)), rest)
  else .ok (.int n, rest)

/-- The number at the beginning of the octets, after its sign. -/
def number (negative : Bool) (bs : Bytes) : Reading Json :=
  match digits bs with
  | ([], []) => .error .early
  | ([], _ :: _) => .error .wrong
  | (d :: ds, rest) =>
      if d = '0' && !ds.isEmpty then .error .wrong
      else
        let (s, left) := accumulate 0 (d :: ds)
        match rest with
        | b :: rest' =>
            if b = octet '.' then fraction negative s left rest'
            else if isExponentMark b || 0 < left then scaled negative s left rest
            else whole negative s rest
        | [] => if 0 < left then scaled negative s left rest else whole negative s rest

/-! ## Texts -/

/-- The four hexadecimal digits of an escape.  Fewer than four octets are an early end, whatever
they are. -/
def hexFour (bs : Bytes) : Reading Nat :=
  match bs with
  | a :: b :: c :: d :: rest =>
      match [a, b, c, d].mapM fun x => Text.hexValue? (Char.ofNat x.toNat) with
      | some ds => .ok (ds.foldl (fun n d => n * 16 + d) 0, rest)
      | none => .error .wrong
  | _ => .error .early

/-- The character of an escape by code units, after its `u`: a unit of its own or a pair of
surrogates. -/
def unicodeEscape (bs : Bytes) : Reading Char :=
  (hexFour bs).bind fun (n, rest) =>
  if 0xDC00 ≤ n ∧ n ≤ 0xDFFF then .error .wrong
  else if n < 0xD800 ∨ 0xDBFF < n then .ok (Char.ofNat n, rest)
  else
    match rest with
    | [] => .error .early
    | [b] => if b = octet '\\' then .error .early else .error .wrong
    | b :: b' :: rest =>
        if b = octet '\\' ∧ b' = octet 'u' then
          (hexFour rest).bind fun (m, rest) =>
          if m < 0xDC00 ∨ 0xDFFF < m then .error .wrong
          else .ok (Char.ofNat (0x10000 + (n - 0xD800) * 0x400 + (m - 0xDC00)), rest)
        else .error .wrong

/-- The octets that an escape stands for, after its backslash. -/
def escape (bs : Bytes) : Reading Bytes :=
  match bs with
  | [] => .error .early
  | b :: rest =>
      match Char.ofNat b.toNat with
      | '"' => .ok ([b], rest)
      | '\\' => .ok ([b], rest)
      | '/' => .ok ([b], rest)
      | 'b' => .ok ([0x08], rest)
      | 'f' => .ok ([0x0C], rest)
      | 'n' => .ok ([0x0A], rest)
      | 'r' => .ok ([0x0D], rest)
      | 't' => .ok ([0x09], rest)
      | 'u' => (unicodeEscape rest).map fun (c, rest) => (String.utf8EncodeChar c, rest)
      | _ => .error .wrong

/-- The text at the beginning of the octets, after its opening quote.  `read` holds the octets so
far, last one first. -/
def text : Nat → Bytes → Bytes → Reading String
  | 0, _, _ => .error .wrong
  | _ + 1, _, [] => .error .early
  | count + 1, read, b :: bs =>
      if b = octet '"' then
        match Utf8.decode? read.reverse with
        | some s => .ok (s, bs)
        | none => .error .wrong
      else if b = octet '\\' then
        match escape bs with
        | .ok (octets, rest) => text count (octets.reverse ++ read) rest
        | .error fault => .error fault
      else if b < 0x20 then .error .wrong
      else text count (b :: read) bs

/-! ## Values -/

/-- The name of a member and the colon after it, after the opening quote of the name. -/
def name (count : Nat) (bs : Bytes) : Reading String :=
  (text count [] bs).bind fun (s, rest) =>
  match skipSpace rest with
  | [] => .error .early
  | b :: rest => if b = octet ':' then .ok (s, rest) else .error .wrong

mutual

/-- The value at the beginning of the octets.  `depth` brackets may still be opened. -/
def value : Nat → Nat → Bytes → Reading Json
  | 0, _, _ => .error .wrong
  | count + 1, depth, bs =>
      match skipSpace bs with
      | [] => .error .early
      | b :: rest =>
          if b = octet 'n' then word "ull".toList .null rest
          else if b = octet 't' then word "rue".toList (.bool true) rest
          else if b = octet 'f' then word "alse".toList (.bool false) rest
          else if b = octet '-' then number true rest
          else if isDigit b then number false (b :: rest)
          else if b = octet '"' then (text count [] rest).map fun (s, rest) => (.str s, rest)
          else if b = octet '[' then
            if depth ≤ 1 then .error .wrong else items count (depth - 1) true [] rest
          else if b = octet '\x7b' then
            if depth ≤ 1 then .error .wrong else members count (depth - 1) true [] rest
          else .error .wrong

/-- The items of a list up to its closing bracket.  `first` is whether none was read yet; `read`
holds those read, last one first. -/
def items : Nat → Nat → Bool → List Json → Bytes → Reading Json
  | 0, _, _, _, _ => .error .wrong
  | count + 1, depth, first, read, bs =>
      match skipSpace bs with
      | [] => .error .early
      | b :: rest =>
          if b = octet ']' then .ok (.arr read.reverse, rest)
          else if first then
            match value count depth (b :: rest) with
            | .ok (v, rest) => items count depth false (v :: read) rest
            | .error fault => .error fault
          else if b = octet ',' then
            match skipSpace rest with
            | [] => .error .early
            | b' :: rest' =>
                if b' = octet ']' then .error .wrong
                else
                  match value count depth (b' :: rest') with
                  | .ok (v, rest) => items count depth false (v :: read) rest
                  | .error fault => .error fault
          else .error .wrong

/-- The members of an object up to its closing bracket. -/
def members : Nat → Nat → Bool → Members → Bytes → Reading Json
  | 0, _, _, _, _ => .error .wrong
  | count + 1, depth, first, read, bs =>
      match skipSpace bs with
      | [] => .error .early
      | b :: rest =>
          if b = octet '\x7d' then .ok (.obj read, rest)
          else if first && b = octet '"' then member count depth read rest
          else if !first && b = octet ',' then
            match skipSpace rest with
            | [] => .error .early
            | b' :: rest' =>
                if b' = octet '"' then member count depth read rest' else .error .wrong
          else .error .wrong

/-- A member and those after it, after the opening quote of its name. -/
def member : Nat → Nat → Members → Bytes → Reading Json
  | 0, _, _, _ => .error .wrong
  | count + 1, depth, read, bs =>
      match name count bs with
      | .error fault => .error fault
      | .ok (n, rest) =>
          match value count depth rest with
          | .ok (v, rest) => members count depth false (Members.insert n v read) rest
          | .error fault => .error fault

end

end Parser

/-- The value of a document, read from its octets. -/
def parse (bs : Bytes) : Except Malformed Json := do
  let (v, rest) ← Parser.value (4 * bs.length + 4) Parser.depthLimit bs
  match Parser.skipSpace rest with
  | [] => .ok v
  | _ :: _ => .error .wrong

end VersionedApi.Json
