import VersionedApi.Text.Split

/-!
# Sets and maps of characters given by ranges

Properties of characters that a standard fixes are kept as lists of ranges of code points, both
ends included.  Maps of characters are kept as runs, characters at equal steps whose images lie at
one distance from them, or as rows, characters that follow each other with their images in turn.
-/

namespace VersionedApi

open Text (splitOn)

/-- A set of characters as a list of ranges of code points. -/
structure CharRanges where
  /-- The ranges, both ends included. -/
  ranges : List (Nat × Nat)

namespace CharRanges

/-- Whether a character lies in one of the ranges. -/
def contains (set : CharRanges) (c : Char) : Bool :=
  set.ranges.any fun (lo, hi) => lo ≤ c.toNat && c.toNat ≤ hi

end CharRanges

/-- Characters at equal steps, all at one distance from their images. -/
structure CharRun where
  /-- The first code point. -/
  first : Nat
  /-- The last code point. -/
  last : Nat
  /-- The step from one code point to the next. -/
  step : Nat
  /-- The distance from a code point to its image. -/
  distance : Int

namespace CharRun

/-- Whether a character belongs to a run. -/
def covers (run : CharRun) (c : Char) : Bool :=
  run.first ≤ c.toNat && c.toNat ≤ run.last && (c.toNat - run.first) % run.step == 0

/-- The image of a character under the first run that covers it. -/
def shift? (runs : List CharRun) (c : Char) : Option Char :=
  (runs.find? (·.covers c)).map fun run => Char.ofNat ((c.toNat : Int) + run.distance).toNat

end CharRun

/-- Characters that follow each other, each with an image. -/
structure CharRow where
  /-- The first code point. -/
  first : Nat
  /-- The images in turn, separated by blanks. -/
  images : String

namespace CharRow

/-- The image of a character in the last row that does not begin behind it, the rows being in
ascending order. -/
def image? (rows : List CharRow) (c : Char) : Option (List Char) :=
  (rows.takeWhile (·.first ≤ c.toNat)).getLast?.bind fun row =>
    (splitOn ' ' row.images.toList)[c.toNat - row.first]?

end CharRow

end VersionedApi
