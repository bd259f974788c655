import VersionedApi.Text.Utf8
import VersionedApi.Text.Numeral

/-!
# Percent encoding

A character that a part of a URL cannot hold is written as its octets, each as a percent sign and
two upper-case hexadecimal digits.  Each part has its own set of ASCII characters to encode; every
character outside ASCII is encoded in all of them.  Decoding takes any percent sign with two
hexadecimal digits of either case to the octet they stand for and leaves other percent signs alone.
-/

namespace VersionedApi.Url.Percent

/-- A set of ASCII characters that a part of a URL encodes. -/
abbrev EncodeSet := Char → Bool

/-- Whether a character is one of a text. -/
def oneOf (s : String) (c : Char) : Bool := s.toList.contains c

/-- The controls of ASCII. -/
def controls : EncodeSet := fun c => c.toNat < 0x20 || c.toNat == 0x7F

/-- What a fragment encodes. -/
def fragmentSet : EncodeSet := fun c => controls c || oneOf " \"<>`" c

/-- What a query encodes. -/
def querySet : EncodeSet := fun c => controls c || oneOf " \"#<>" c

/-- What a query of a special scheme encodes. -/
def specialQuerySet : EncodeSet := fun c => querySet c || c == '\''

/-- What a path encodes. -/
def pathSet : EncodeSet := fun c => fragmentSet c || oneOf "#?\x7b\x7d" c

/-- What a user name or a password encodes. -/
def userinfoSet : EncodeSet := fun c => pathSet c || oneOf "/:;=@[\\]^|" c

/-- The upper-case hexadecimal digit of a value below sixteen. -/
def digit (n : Nat) : Char := if n < 10 then Char.ofNat (48 + n) else Char.ofNat (55 + n)

/-- An octet as a percent sign and two digits. -/
def escape (b : UInt8) : List Char := ['%', digit (b.toNat / 16), digit (b.toNat % 16)]

/-- The characters that stand for one character. -/
def encodeChar (set : EncodeSet) (c : Char) : List Char :=
  if c.toNat < 0x80 && !set c then [c] else (String.utf8EncodeChar c).flatMap escape

/-- The encoded form of a text. -/
def encode (set : EncodeSet) (cs : List Char) : List Char := cs.flatMap (encodeChar set)

/-- The octet of two hexadecimal digits, if they are digits. -/
def octet? (a b : UInt8) : Option UInt8 :=
  match Text.hexValue? (Char.ofNat a.toNat), Text.hexValue? (Char.ofNat b.toNat) with
  | some x, some y => some (UInt8.ofNat (16 * x + y))
  | _, _ => none

/-- The octets that a sequence of octets stands for. -/
def decode : Bytes → Bytes
  | 0x25 :: a :: b :: rest =>
      match octet? a b with
      | some octet => octet :: decode rest
      | none => 0x25 :: decode (a :: b :: rest)
  | x :: rest => x :: decode rest
  | [] => []

end VersionedApi.Url.Percent
