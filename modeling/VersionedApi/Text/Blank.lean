import VersionedApi.Text.CharRange

/-!
# Blank characters

The characters with the Unicode property White_Space, and texts with the blanks taken off their
ends.
-/

namespace VersionedApi.Text

/-- The characters with the property White_Space. -/
def blanks : CharRanges :=
  ⟨[(0x0009, 0x000D), (0x0020, 0x0020), (0x0085, 0x0085), (0x00A0, 0x00A0), (0x1680, 0x1680),
    (0x2000, 0x200A), (0x2028, 0x2029), (0x202F, 0x202F), (0x205F, 0x205F), (0x3000, 0x3000)]⟩

/-- Whether a character is blank. -/
def isBlank (c : Char) : Bool := blanks.contains c

/-- A list without the longest end whose members satisfy `p`. -/
def dropEndWhile {α : Type} (p : α → Bool) (cs : List α) : List α :=
  (cs.reverse.dropWhile p).reverse

/-- A list without its longest beginning and its longest end whose members satisfy `p`. -/
def trimBy {α : Type} (p : α → Bool) (cs : List α) : List α :=
  dropEndWhile p (cs.dropWhile p)

/-- A text without the blanks at its ends. -/
def trim (cs : List Char) : List Char := trimBy isBlank cs

end VersionedApi.Text
