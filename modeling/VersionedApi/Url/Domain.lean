import VersionedApi.Url.DomainMapping
import VersionedApi.Url.Punycode
import VersionedApi.Url.Percent
import VersionedApi.Text.Composition
import VersionedApi.Text.Direction
import VersionedApi.Text.Joining
import VersionedApi.Text.Lowercase
import VersionedApi.Text.Split

/-!
# Domain names

The ASCII form of a domain name.  The characters are mapped first: capitals to small letters,
compatibility forms to the characters they stand for, and a few are left out; marks are then joined
with their letters.  Each label of the mapped name is kept as it is if it is ASCII, and written in
Punycode behind the mark `xn--` otherwise.  A label that is marked already must be the Punycode of
a label that the mapping leaves alone.  If any label runs from right to left, every label must read
one way.

A label with characters outside ASCII is accepted only if its Punycode reads back as itself, so
the ASCII form of an ASCII form is that form.
-/

namespace VersionedApi.Url.Domain

open VersionedApi.Text

/-! ## The mapping -/

/-- What a character is mapped to, unless no name may hold it. -/
def mapChar? (c : Char) : Option (List Char) :=
  if c.toNat < 0x80 then some [c.toLower]
  else if ignored.contains c then some []
  else
    match CharRow.image? images c with
    | some image => some image
    | none =>
        if c = separator || c = joiner then some [c]
        else if unprintable.contains c || refused.contains c then none
        else some (lowerChar c)

/-- A mapped name, unless it holds a character that no name may hold. -/
def map? (cs : List Char) : Option (List Char) :=
  (cs.mapM mapChar?).map fun images => compose images.flatten

/-! ## Labels -/

/-- Whether a text is ASCII. -/
def isAscii (cs : List Char) : Bool := cs.all (·.toNat < 0x80)

/-- Whether a label with characters outside ASCII may stand in a name: it begins with no mark on
another character, its joiners have an effect and the mapping leaves it alone. -/
def isStable (label : List Char) : Bool :=
  !(label.head?.any isMark) && joinersFit [] label && map? label == some label

/-- The mark of a label in Punycode. -/
def mark : List Char := "xn--".toList

/-- What a label of a mapped name stands for: itself, or what its Punycode reads as. -/
def readLabel? (label : List Char) : Option (List Char) :=
  if isAscii label then
    if label.take 4 = mark then
      match Punycode.decode? (label.drop 4) with
      | some decoded =>
          if !isAscii decoded && isStable decoded && Punycode.encode decoded = label.drop 4 then
            some decoded
          else none
      | none => none
    else some label
  else if isStable label && label.take 4 ≠ mark
      && Punycode.decode? (Punycode.encode label) = some label then some label
  else none

/-- The ASCII form of a label. -/
def writeLabel (label : List Char) : List Char :=
  if isAscii label then label else mark ++ Punycode.encode label

/-! ## Names -/

/-- The ASCII characters that the host of a URL may not hold. -/
def forbidden (c : Char) : Bool := c.toNat ≤ 0x20 || Percent.oneOf "%#/:<>?@[\\]^|\x7f" c

/-- The ASCII form of a name, its labels separated by points, unless it is no domain name. -/
def toAscii? (name : List Char) : Option (List Char) := do
  let mapped ← map? name
  let labels ← (splitOn '.' mapped).mapM readLabel?
  let ascii := ['.'].intercalate (labels.map writeLabel)
  if Direction.keepsOrder labels && !ascii.any forbidden then some ascii else none

end VersionedApi.Url.Domain
