/-!
# Binary floating point numbers

The finite numbers of the 64-bit binary format, kept as their bits.  A magnitude is
`significand · 2 ^ exponent`; every operation here takes magnitudes to exact ratios of naturals
and rounds once, to the nearest number of the format, a tie to the even significand.

`Double.nearest?` reads a decimal in one rounding.  `Double.ofDecimal?` reads it in two: the
significand is rounded first, and the result is multiplied or divided by the number nearest to the
power of ten.
-/

namespace VersionedApi

/-- A finite number of the 64-bit binary format. -/
structure Double where
  /-- Sign, biased exponent and fraction. -/
  bits : UInt64
deriving DecidableEq, Repr, Inhabited

namespace Double

/-- Whether the sign bit is set. -/
def isNegative (d : Double) : Bool := d.bits.toNat >>> 63 == 1

/-- The biased exponent. -/
def biased (d : Double) : Nat := (d.bits.toNat >>> 52) % (1 <<< 11)

/-- The fraction bits. -/
def fraction (d : Double) : Nat := d.bits.toNat % (1 <<< 52)

/-- The integer significand. -/
def significand (d : Double) : Nat :=
  if d.biased = 0 then d.fraction else d.fraction + 1 <<< 52

/-- The exponent of the last place of the significand, plus 1074. -/
def place (d : Double) : Nat := d.biased - 1

/-- Whether the magnitude is zero. -/
def isZero (d : Double) : Bool := d.significand == 0

/-- The number with the given sign bit, significand and place. -/
def pack (negative : Bool) (significand place : Nat) : Double :=
  let sign := if negative then 1 <<< 63 else 0
  let magnitude :=
    if significand < 1 <<< 52 then significand else (place + 1) <<< 52 + (significand - 1 <<< 52)
  ⟨UInt64.ofNat (sign + magnitude)⟩

/-- A quotient rounded to the nearest natural, a tie to the even one. -/
def roundQuotient (num den : Nat) : Nat :=
  let q := num / den
  let r := num % den
  if 2 * r < den then q
  else if den < 2 * r then q + 1
  else q + q % 2

/-- The place at which a ratio has a significand of 53 bits, or the lowest place.  `places` is
1074 plus the exponent of the last place. -/
def placeOf (num den : Nat) : Nat :=
  let guess : Int := (num.log2 : Int) - den.log2 - 52 + 1074
  let fits (p : Int) : Bool :=
    if p ≤ 1074 then num <<< (1074 - p).toNat < den <<< 53
    else num < den <<< (53 + (p - 1074).toNat)
  if guess - 1 ≤ 0 then
    if fits 0 then 0 else if fits 1 then 1 else 2
  else if fits (guess - 1) then (guess - 1).toNat
  else if fits guess then guess.toNat
  else (guess + 1).toNat

/-- The number nearest to a ratio, unless that lies beyond the largest. -/
def ofRatio? (negative : Bool) (num den : Nat) : Option Double :=
  let p := placeOf num den
  let m :=
    if p ≤ 1074 then roundQuotient (num <<< (1074 - p)) den
    else roundQuotient num (den <<< (p - 1074))
  let (m, p) := if m = 1 <<< 53 then (1 <<< 52, p + 1) else (m, p)
  if 2045 < p then none else some (pack negative m p)

/-- The magnitude as a ratio. -/
def ratio (d : Double) : Nat × Nat :=
  if d.place ≤ 1074 then (d.significand, 1 <<< (1074 - d.place))
  else (d.significand <<< (d.place - 1074), 1)

/-- The magnitude of a product. -/
def mul? (a b : Double) : Option Double :=
  let (n, d) := a.ratio
  let (n', d') := b.ratio
  ofRatio? false (n * n') (d * d')

/-- The magnitude of a quotient by a number other than zero. -/
def div? (a b : Double) : Option Double :=
  let (n, d) := a.ratio
  let (n', d') := b.ratio
  ofRatio? false (n * d') (d * n')

/-- Zero. -/
def zero : Double := ⟨0⟩

/-- The number nearest to a power of ten. -/
def powerOfTen (k : Nat) : Double := (ofRatio? false (Nat.pow 10 k) 1).getD zero

/-- A magnitude with the sign set. -/
def withSign (negative : Bool) (d : Double) : Double := pack negative d.significand d.place

/-- The largest power of ten that the format holds. -/
def largestPower : Nat := 308

/-- A magnitude divided by a power of ten, in steps of the largest power. -/
def descend (d : Double) (k : Nat) : Double :=
  if k ≤ largestPower then (d.div? (powerOfTen k)).getD zero
  else if d.isZero then d
  else descend ((d.div? (powerOfTen largestPower)).getD zero) (k - largestPower)
termination_by k
decreasing_by simp [largestPower] at *; omega

/-- A magnitude multiplied by a power of ten, unless the result lies beyond the largest number. -/
def ascend? (d : Double) (k : Nat) : Option Double :=
  if k ≤ largestPower then d.mul? (powerOfTen k)
  else if d.isZero then some d
  else none

/-- The number written as a decimal `significand · 10 ^ exponent`. -/
def ofDecimal? (negative : Bool) (significand : Nat) (exponent : Int) : Option Double :=
  (ofRatio? false significand 1).bind fun d =>
    if 0 ≤ exponent then (d.ascend? exponent.toNat).map (withSign negative)
    else some (withSign negative (d.descend (-exponent).toNat))

/-- The number nearest to a decimal `significand · 10 ^ exponent`, unless that lies beyond the
largest.  A decimal of a magnitude outside `10 ^ ±400` is decided without its digits. -/
def nearest? (negative : Bool) (significand : Nat) (exponent : Int) : Option Double :=
  let magnitude := exponent + (Nat.toDigits 10 significand).length
  if significand = 0 || magnitude < -400 then some (withSign negative zero)
  else if 400 < magnitude then none
  else if 0 ≤ exponent then ofRatio? negative (significand * Nat.pow 10 exponent.toNat) 1
  else ofRatio? negative significand (Nat.pow 10 (-exponent).toNat)

end Double

end VersionedApi
