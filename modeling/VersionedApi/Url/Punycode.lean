/-!
# Punycode

The ASCII form of one label of an international domain name.  The ASCII characters of the label
stand first, then a delimiter, then for each other character, in ascending order, the number of
places that were passed over since the last one.  Such a number is written in digits of a variable
threshold, least significant first; the threshold follows a bias that adapts to the numbers so
far.

Every loop has its own measure: the number being written or adapted, or the characters that
remain.
-/

namespace VersionedApi.Url.Punycode

/-- The digit of a value below thirty-six: a letter, then a numeral. -/
def digit (d : Nat) : Char := if d < 26 then Char.ofNat (97 + d) else Char.ofNat (22 + d)

/-- The value of a digit, a letter of either case. -/
def digitValue? (c : Char) : Option Nat :=
  if 'a' ≤ c && c ≤ 'z' then some (c.toNat - 97)
  else if 'A' ≤ c && c ≤ 'Z' then some (c.toNat - 65)
  else if '0' ≤ c && c ≤ '9' then some (c.toNat - 22)
  else none

/-- The threshold of the digit at a position, positions counting in steps of thirty-six. -/
def threshold (bias k : Nat) : Nat :=
  if k ≤ bias then 1 else if bias + 26 ≤ k then 26 else k - bias

theorem one_le_threshold (bias k : Nat) : 1 ≤ threshold bias k := by
  unfold threshold
  split
  · omega
  · split <;> omega

/-- The bias for a number that was scaled down. -/
def settle (delta k : Nat) : Nat :=
  if 455 < delta then settle (delta / 35) (k + 36) else k + 36 * delta / (delta + 38)
termination_by delta
decreasing_by exact Nat.div_lt_self (by omega) (by omega)

/-- The bias after a number, `count` characters being placed. -/
def adapt (delta count : Nat) (isFirst : Bool) : Nat :=
  let scaled := if isFirst then delta / 700 else delta / 2
  settle (scaled + scaled / count) 0

/-! ## Writing -/

/-- The digits of a number, from a position. -/
def writeNumber (bias k q : Nat) : List Char :=
  let t := threshold bias k
  if q < t then [digit q]
  else digit (t + (q - t) % (36 - t)) :: writeNumber bias (k + 36) ((q - t) / (36 - t))
termination_by q
decreasing_by
  have := one_le_threshold bias k
  calc (q - threshold bias k) / (36 - threshold bias k)
      ≤ q - threshold bias k := Nat.div_le_self _ _
    _ < q := by omega

/-- What has been written and counted so far. -/
structure Writer where
  /-- The digits so far. -/
  output : List Char
  /-- The places passed over since the last character. -/
  delta : Nat
  /-- The bias. -/
  bias : Nat
  /-- The number of characters placed. -/
  placed : Nat

/-- One character of the label seen while the characters of one code point are placed. -/
def Writer.visit (basic point : Nat) (w : Writer) (c : Char) : Writer :=
  if c.toNat < point then { w with delta := w.delta + 1 }
  else if c.toNat = point then
    { output := w.output ++ writeNumber w.bias 36 w.delta
      delta := 0
      bias := adapt w.delta (w.placed + 1) (w.placed == basic)
      placed := w.placed + 1 }
  else w

/-- All characters of the given code points placed, `next` being the least one not yet passed. -/
def Writer.place (label : List Char) (basic : Nat) : List Nat → Nat → Writer → Writer
  | [], _, w => w
  | point :: points, next, w =>
      let w := { w with delta := w.delta + (point - next) * (w.placed + 1) }
      let w := label.foldl (Writer.visit basic point) w
      Writer.place label basic points (point + 1) { w with delta := w.delta + 1 }

/-- A number added to an ascending list that does not hold it yet. -/
def insertPoint (x : Nat) : List Nat → List Nat
  | [] => [x]
  | y :: ys => if x < y then x :: y :: ys else if x = y then y :: ys else y :: insertPoint x ys

/-- The ASCII form of a label, without the mark in front of it. -/
def encode (label : List Char) : List Char :=
  let basic := label.filter (·.toNat < 0x80)
  let points := (label.filter (0x80 ≤ ·.toNat)).foldr (fun c ps => insertPoint c.toNat ps) []
  let start := if basic.isEmpty then [] else basic ++ ['-']
  (Writer.place label basic.length points 0x80 ⟨start, 0, 72, basic.length⟩).output

/-! ## Reading -/

/-- The number at the beginning of the digits, and the rest. -/
def readNumber (bias : Nat) : Nat → Nat → Nat → List Char → Option (Nat × List Char)
  | _, _, _, [] => none
  | k, weight, sum, c :: cs =>
      match digitValue? c with
      | none => none
      | some d =>
          let sum := sum + d * weight
          if d < threshold bias k then some (sum, cs)
          else readNumber bias (k + 36) (weight * (36 - threshold bias k)) sum cs

/-- A label with a character put in at a position. -/
def insertAt (label : List Char) (i : Nat) (c : Char) : List Char :=
  label.take i ++ c :: label.drop i

/-- The label after the numbers in the digits.  Each number takes at least one digit, so the count
of digits bounds the recursion. -/
def readPlaces : Nat → Nat → Nat → Nat → List Char → List Char → Option (List Char)
  | _, _, _, _, label, [] => some label
  | 0, _, _, _, _, _ :: _ => none
  | count + 1, point, index, bias, label, digits =>
      match readNumber bias 36 1 0 digits with
      | none => none
      | some (delta, rest) =>
          let size := label.length + 1
          let total := index + delta
          let point' := point + total / size
          let i := total % size
          if 0x10FFFF < point' || (0xD800 ≤ point' && point' ≤ 0xDFFF) then none
          else
            readPlaces count point' (i + 1) (adapt delta size (index == 0))
              (insertAt label i (Char.ofNat point')) rest

/-- The parts before and after the last delimiter. -/
def splitDelimiter (cs : List Char) : List Char × List Char :=
  match cs.reverse.span (· ≠ '-') with
  | (_, []) => ([], cs)
  | (tail, _ :: head) => (head.reverse, tail.reverse)

/-- The label of an ASCII form. -/
def decode? (cs : List Char) : Option (List Char) :=
  let (basic, digits) := splitDelimiter cs
  readPlaces digits.length 0x80 0 72 basic digits

end VersionedApi.Url.Punycode
