import VersionedApi.Text.Mark

/-!
# Direction

The direction in which a character is written, and the rule for a line of characters that stands
between others: it must read the same whichever way the text around it runs.
-/

namespace VersionedApi.Text

/-- The direction of a character. -/
inductive Direction where
  /-- From left to right. -/
  | left
  /-- From right to left. -/
  | right
  /-- A European numeral. -/
  | number
  /-- An Arabic numeral. -/
  | arabicNumber
  /-- That of the character before it. -/
  | mark
  /-- That of the text around it. -/
  | neutral
deriving DecidableEq, Repr

namespace Direction

/-- The numerals outside ASCII that count as European ones. -/
def numbers : CharRanges :=
  ⟨[
    (0x06F0, 0x06F9), (0x102E1, 0x102FB)]⟩

/-- The Arabic numerals and the marks between them. -/
def arabicNumbers : CharRanges :=
  ⟨[
    (0x0660, 0x0669), (0x066B, 0x066C), (0x10D30, 0x10D39), (0x10E60, 0x10E7E)]⟩

/-- The marks that are written from left to right. -/
def leftMarks : CharRanges :=
  ⟨[
    (0x0CBF, 0x0CBF), (0x0CC6, 0x0CC6), (0x11A07, 0x11A08), (0x11C3F, 0x11C3F)]⟩

/-- The characters outside ASCII without a direction. -/
def neutrals : CharRanges :=
  ⟨[
    (0x00A1, 0x00D7), (0x00F7, 0x00F7), (0x02B9, 0x02BA), (0x02C2, 0x02CF), (0x02D2, 0x02ED),
    (0x02EF, 0x02FF), (0x0375, 0x0375), (0x03F6, 0x03F6), (0x058A, 0x058F), (0x0606, 0x0607),
    (0x0609, 0x060A), (0x060C, 0x060C), (0x060E, 0x060F), (0x066A, 0x066A), (0x06DE, 0x06DE),
    (0x06E9, 0x06E9), (0x07F6, 0x07F9), (0x09F2, 0x09F3), (0x09FB, 0x09FB), (0x0AF1, 0x0AF1),
    (0x0BF3, 0x0BFA), (0x0C78, 0x0C7E), (0x0E3F, 0x0E3F), (0x0F3A, 0x0F3D), (0x1390, 0x1399),
    (0x1400, 0x1400), (0x169B, 0x169C), (0x17DB, 0x17DB), (0x17F0, 0x180A), (0x1940, 0x1945),
    (0x19DE, 0x19FF), (0x1B4E, 0x1B4F), (0x1B7F, 0x1B7F), (0x200C, 0x214D), (0x218A, 0x2335),
    (0x237B, 0x2394), (0x2396, 0x26AB), (0x26AD, 0x27FF), (0x2900, 0x2BFF), (0x2CE5, 0x2CEA),
    (0x2CF9, 0x2CFF), (0x2E00, 0x3004), (0x3008, 0x3020), (0x3030, 0x3030), (0x3037, 0x3037),
    (0x303D, 0x303F), (0x30A0, 0x30A0), (0x30FB, 0x30FB), (0x31C0, 0x31E5), (0x4DC0, 0x4DFF),
    (0xA490, 0xA4C6), (0xA60D, 0xA60F), (0xA673, 0xA67F), (0xA700, 0xA721), (0xA788, 0xA788),
    (0xA828, 0xA82B), (0xA838, 0xA839), (0xA874, 0xA877), (0xAB6A, 0xAB6B), (0xFBC3, 0xFE46),
    (0x10101, 0x10101), (0x10140, 0x1018C), (0x10190, 0x101A0), (0x1091F, 0x1091F),
    (0x10B39, 0x10B3F), (0x11052, 0x11065), (0x113D4, 0x113D8), (0x11660, 0x1166C),
    (0x11BE1, 0x11BE1), (0x11FD5, 0x11FF1), (0x16D6D, 0x16D6F), (0x16FE2, 0x16FE2),
    (0x1CC00, 0x1CEF0), (0x1D1E9, 0x1D245), (0x1D300, 0x1D356), (0x1E2FF, 0x1E2FF),
    (0x1E5FF, 0x1E5FF), (0x1EEF0, 0x1F12F), (0x1F16D, 0x1F16F), (0x1F1AD, 0x1F1AD),
    (0x1F260, 0x1FBFA)]⟩

/-- The scripts that are written from right to left. -/
def rightScripts : CharRanges :=
  ⟨[
    (0x05BE, 0x08C9), (0xFBB2, 0xFE73), (0x10800, 0x10FF6), (0x1E800, 0x1ED3D)]⟩

/-- The direction of a character. -/
def of (c : Char) : Direction :=
  if c.toNat < 0x80 then
    if c.isAlpha then .left else if c.isDigit then .number else .neutral
  else if numbers.contains c then .number
  else if arabicNumbers.contains c then .arabicNumber
  else if isNonspacing c && !leftMarks.contains c then .mark
  else if neutrals.contains c then .neutral
  else if rightScripts.contains c then .right
  else .left

/-- Whether a line holds characters that are written from right to left. -/
def runsRight (line : List Direction) : Bool := line.any fun d => d = .right || d = .arabicNumber

/-- The direction of the last character that is no mark. -/
def last? (line : List Direction) : Option Direction := line.reverse.find? (· ≠ .mark)

/-- Whether a line reads from left to right wherever it stands. -/
def isLeftLine (line : List Direction) : Bool :=
  line.head? = some .left
    && line.all (fun d => d ≠ .right && d ≠ .arabicNumber)
    && (last? line).any fun d => d = .left || d = .number

/-- Whether a line reads from right to left wherever it stands. -/
def isRightLine (line : List Direction) : Bool :=
  line.head? = some .right
    && line.all (· ≠ .left)
    && !(line.contains .number && line.contains .arabicNumber)
    && (last? line).any fun d => d = .right || d = .number || d = .arabicNumber

/-- Whether lines that stand side by side keep their order: none runs from right to left, or each
that is not empty reads one way. -/
def keepsOrder (lines : List (List Char)) : Bool :=
  let lines := lines.map (·.map Direction.of)
  !lines.any runsRight || lines.all fun line => line.isEmpty || isLeftLine line || isRightLine line

end Direction

end VersionedApi.Text
