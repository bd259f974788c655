import VersionedApi.Decimal.Double
import VersionedApi.Text.Numeral

/-!
# Shortest decimals

The decimal with the fewest digits that reads back as a given binary number, and of those the
nearest.  The decimals that read back form an interval around the number, its ends included when
the significand is even.  For one digit, two digits and so on the two neighbours of the number on
that decimal grid are tested: if any point of a grid lies in the interval, so does a neighbour.

`Layout` says how a decimal is set: which exponents are written positionally and how an exponent
is marked.
-/

namespace VersionedApi

/-- A decimal `0.d₁d₂d₃… · 10 ^ point`. -/
structure Digits where
  /-- The digits, the first one not zero. -/
  digits : List Char
  /-- The number of digits before the decimal point. -/
  point : Int
deriving Repr

namespace Double

/-- Whether a decimal `n · 10 ^ e` lies in the interval of the decimals that read back as a
number of the given significand and place. -/
def readsBack (d : Double) (n : Nat) (e : Int) : Bool :=
  let m := d.significand
  -- all quantities in quarters of the last place
  let lower := if m = 1 <<< 52 && 1 < d.biased then 4 * m - 1 else 4 * m - 2
  let upper := 4 * m + 2
  let (tenNum, tenDen) := if 0 ≤ e then (Nat.pow 10 e.toNat, 1) else (1, Nat.pow 10 (-e).toNat)
  let (twoNum, twoDen) :=
    if d.place ≤ 1074 then (1, 1 <<< (1074 - d.place)) else (1 <<< (d.place - 1074), 1)
  let value := 4 * n * tenNum * twoDen
  let low := lower * twoNum * tenDen
  let high := upper * twoNum * tenDen
  if m % 2 = 0 then low ≤ value && value ≤ high else low < value && value < high

/-- The number of digits before the decimal point of a ratio, not positive for a ratio below one
tenth. -/
def pointOf (num den : Nat) : Int :=
  if den ≤ num then (Text.decimal (num / den)).length
  else
    let zeros := ((List.range 400).find? fun j => den ≤ num * Nat.pow 10 (j + 1)).getD 0
    (0 : Int) - zeros

/-- The better of the two neighbours of a ratio on the grid `10 ^ e` that read back. -/
def neighbour? (d : Double) (num den : Nat) (e : Int) : Option Nat :=
  let (gridNum, gridDen) := if 0 ≤ e then (Nat.pow 10 e.toNat, 1) else (1, Nat.pow 10 (-e).toNat)
  let below := num * gridDen / (den * gridNum)
  let nearest := roundQuotient (num * gridDen) (den * gridNum)
  let other := if nearest = below then below + 1 else below
  if 0 < nearest && d.readsBack nearest e then some nearest
  else if 0 < other && d.readsBack other e then some other
  else none

/-- The digits of the shortest decimal of a magnitude other than zero. -/
def shortest (d : Double) : Digits :=
  let (num, den) := d.ratio
  let point := pointOf num den
  let hit := (List.range 17).findSome? fun k =>
    let e := point - (k + 1 : Nat)
    (d.neighbour? num den e).map fun n => (n, e)
  match hit with
  | some (n, e) =>
      let ds := Text.decimal n
      let kept := (ds.reverse.dropWhile (· == '0')).reverse
      ⟨kept, e + (ds.length : Int)⟩
  | none => ⟨['0'], 1⟩

end Double

/-- The decisions of a decimal notation. -/
structure Layout where
  /-- The least count of digits before the point that is written positionally. -/
  least : Int
  /-- The greatest count of digits before the point that is written positionally. -/
  greatest : Int
  /-- The mark before an exponent. -/
  mark : List Char
  /-- The sign of an exponent that is not negative. -/
  plus : List Char

namespace Layout

/-- A decimal set without an exponent, always with a point. -/
def positional (d : Digits) : List Char :=
  if d.point ≤ 0 then
    "0.".toList ++ List.replicate (-d.point).toNat '0' ++ d.digits
  else if d.digits.length ≤ d.point.toNat then
    Text.padEnd d.point.toNat '0' d.digits ++ ".0".toList
  else d.digits.take d.point.toNat ++ '.' :: d.digits.drop d.point.toNat

/-- A decimal set with one digit before the point and an exponent. -/
def scientific (layout : Layout) (d : Digits) : List Char :=
  let e := d.point - 1
  let mantissa := match d.digits with
    | [] => ['0']
    | [c] => [c]
    | c :: cs => c :: '.' :: cs
  let sign := if e < 0 then ['-'] else layout.plus
  mantissa ++ layout.mark ++ sign ++ Text.decimal e.natAbs

/-- The text of a number. -/
def format (layout : Layout) (d : Double) : List Char :=
  let sign := if d.isNegative then ['-'] else []
  if d.isZero then sign ++ "0.0".toList
  else
    let digits := d.shortest
    if layout.least ≤ digits.point && digits.point ≤ layout.greatest then
      sign ++ positional digits
    else sign ++ layout.scientific digits

end Layout

end VersionedApi
