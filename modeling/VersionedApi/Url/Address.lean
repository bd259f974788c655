import VersionedApi.Text.Numeral
import VersionedApi.Text.Split

/-!
# Internet addresses

Numeric hosts of URLs.  An IPv4 address is one to four numbers in decimal, octal or hexadecimal,
of which the last fills the octets that the others leave.  An IPv6 address is eight pieces of
sixteen bits, where one run of zeros may be left out and the last two pieces may be written as an
IPv4 address in plain decimal.

Both are written in one form only: IPv4 as four decimal octets, IPv6 in lower case with the first
of the longest runs of at least two zero pieces left out.
-/

namespace VersionedApi.Url

open VersionedApi.Text

namespace Ipv4

/-- The value of digits in a base, most significant first. -/
def valueIn (base : Nat) (ds : List Char) : Nat :=
  ds.foldl (fun n d => n * base + (hexValue? d).getD 0) 0

/-- Whether all characters are digits of a base. -/
def allDigits (base : Nat) (ds : List Char) : Bool :=
  ds.all fun d => (hexValue? d).any (· < base)

/-- The number that a part of an address stands for: hexadecimal behind `0x`, octal behind `0`,
decimal otherwise.  A bare `0x` stands for zero. -/
def number? (part : List Char) : Option Nat :=
  let (base, ds) := match part with
    | '0' :: 'x' :: ds => (16, ds)
    | '0' :: 'X' :: ds => (16, ds)
    | '0' :: d :: ds => (8, d :: ds)
    | ds => (10, ds)
  if part.isEmpty then none
  else if allDigits base ds then some (valueIn base ds) else none

/-- The parts of a name, without an empty one at its end. -/
def parts (name : List Char) : List (List Char) :=
  match (splitOn '.' name).reverse with
  | [] :: p :: ps => (p :: ps).reverse
  | ps => ps.reverse

/-- Whether a name must be an address, because its last part is a number. -/
def endsInNumber (name : List Char) : Bool :=
  match (parts name).getLast? with
  | some last => (!last.isEmpty && last.all isDigit) || (number? last).isSome
  | none => false

/-- The address whose last number is `last` and whose other numbers are `octets`. -/
def combine? (octets : List Nat) (last : Nat) : Option UInt32 :=
  if 3 < octets.length || octets.any (255 < ·) || 1 <<< (8 * (4 - octets.length)) ≤ last then none
  else
    let high := octets.foldl (fun n o => n * 256 + o) 0
    some (UInt32.ofNat (high <<< (8 * (4 - octets.length)) + last))

/-- The address that a name stands for. -/
def parse? (name : List Char) : Option UInt32 := do
  let numbers ← (parts name).mapM number?
  let last ← numbers.getLast?
  combine? numbers.dropLast last

/-- The four octets of an address. -/
def octets (address : UInt32) : List Nat :=
  let n := address.toNat
  [n >>> 24, (n >>> 16) % 256, (n >>> 8) % 256, n % 256]

/-- The text of an address. -/
def render (address : UInt32) : List Char :=
  ['.'].intercalate ((octets address).map decimal)

end Ipv4

namespace Ipv6

/-- The pieces read so far: those before the run of zeros that is left out and, once that has
been read, those after it. -/
structure Reader where
  /-- The pieces before. -/
  before : List Nat
  /-- The pieces after. -/
  after : Option (List Nat)

namespace Reader

/-- The number of places taken; the run that is left out takes one. -/
def taken (r : Reader) : Nat :=
  r.before.length + match r.after with
    | none => 0
    | some ps => ps.length + 1

/-- One piece more. -/
def push (r : Reader) (p : Nat) : Reader :=
  match r.after with
  | none => { r with before := r.before ++ [p] }
  | some ps => { r with after := some (ps ++ [p]) }

/-- The eight pieces, if the places are filled. -/
def finish? (r : Reader) : Option (List UInt16) :=
  match r.after with
  | none => if r.before.length = 8 then some (r.before.map UInt16.ofNat) else none
  | some ps =>
      let zeros := List.replicate (8 - r.before.length - ps.length) 0
      some ((r.before ++ zeros ++ ps).map UInt16.ofNat)

end Reader

/-- Whether a character is a hexadecimal digit. -/
def isHex (c : Char) : Bool := (hexValue? c).isSome

/-- The value of an octet in plain decimal, without leading zeros. -/
def octet? (ds : List Char) : Option Nat :=
  if ds.isEmpty || !ds.all isDigit || (ds.head? = some '0' && 1 < ds.length) then none
  else if decimalValue ds ≤ 255 then some (decimalValue ds) else none

/-- The two pieces of an IPv4 address in plain decimal. -/
def dotted? (cs : List Char) : Option (Nat × Nat) :=
  match (splitOn '.' cs).mapM octet? with
  | some [a, b, c, d] => some (a * 256 + b, c * 256 + d)
  | _ => none

/-- The address after its first pieces.  Each round takes a character or more, so the count of
characters bounds the recursion. -/
def read? : Nat → Reader → List Char → Option (List UInt16)
  | _, r, [] => r.finish?
  | 0, _, _ :: _ => none
  | count + 1, r, c :: cs =>
      if r.taken = 8 then none
      else if c = ':' then
        if r.after.isSome then none else read? count { r with after := some [] } cs
      else
        let ds := ((c :: cs).take 4).takeWhile isHex
        let piece := Ipv4.valueIn 16 ds
        match (c :: cs).drop ds.length with
        | [] => (r.push piece).finish?
        | '.' :: _ =>
            if ds.isEmpty || 6 < r.taken then none
            else (dotted? (c :: cs)).bind fun (high, low) => ((r.push high).push low).finish?
        | ':' :: rest =>
            if rest.isEmpty || ds.isEmpty then none else read? count (r.push piece) rest
        | _ => none

/-- The address that a text stands for. -/
def parse? (cs : List Char) : Option (List UInt16) :=
  match cs with
  | ':' :: ':' :: rest => read? rest.length ⟨[], some []⟩ rest
  | ':' :: _ => none
  | _ => if cs.length < 2 then none else read? cs.length ⟨[], none⟩ cs

/-- The number of zero pieces at the beginning. -/
def zeroRun (ps : List UInt16) : Nat := (ps.takeWhile (· == 0)).length

/-- The position and the length of the first of the longest runs of zero pieces. -/
def longestRun (ps : List UInt16) : Nat × Nat :=
  (List.range ps.length).foldl
    (fun best i => if best.2 < zeroRun (ps.drop i) then (i, zeroRun (ps.drop i)) else best) (0, 0)

/-- The pieces with colons between them. -/
def joined (ps : List UInt16) : List Char :=
  [':'].intercalate (ps.map fun p => hexadecimal p.toNat)

/-- The text of an address. -/
def render (ps : List UInt16) : List Char :=
  let (start, length) := longestRun ps
  if length < 2 then joined ps
  else joined (ps.take start) ++ [':', ':'] ++ joined (ps.drop (start + length))

end Ipv6

end VersionedApi.Url
