import VersionedApi.Text.Base64
import VersionedApi.Text.Split
import VersionedApi.Text.Utf8

/-!
# Files of certificates

A file of certificates is a text with *blocks*: a line that begins a block, base 64, and a line that
ends it.  What stands outside blocks is ignored.  A block of certificates has to hold the nested
elements of one; of the blocks of other known kinds only the base 64 is looked at, and blocks of
unknown kinds are ignored.
-/

namespace VersionedApi.Certificate

/-! ## Blocks -/

/-- A block of a file. -/
structure Block where
  /-- What the block holds. -/
  label : String
  /-- The characters between its first and its last line, without blanks. -/
  body : List Char
deriving DecidableEq, Repr

/-- How a line begins that begins a block. -/
def opening : List Char := "-----BEGIN ".toList

/-- How a line begins that ends a block. -/
def closing (label : String) : List Char := "-----END ".toList ++ label.toList ++ "-----".toList

/-- Whether a character is left out of a body. -/
def isFiller (c : Char) : Bool := c == '\n' || c == '\r' || c == '\t' || c == ' '

/-- The label in the rest of a line that begins a block: what stands before its five hyphens. -/
def label? (rest : List Char) : Option String :=
  let line := (rest.reverse.dropWhile isFiller)
  if (line.takeWhile (· == '-')).length = 5 then some (String.ofList (line.drop 5).reverse)
  else none

/-- The blocks in lines, seen from inside a block or outside.  There are none if a block is cut
short or begins badly. -/
def scan : Option Block → List (List Char) → Option (List Block)
  | none, [] => some []
  | some _, [] => none
  | inside, line :: rest =>
      if opening.isPrefixOf line then
        match label? (line.drop opening.length) with
        | some label => scan (some ⟨label, (inside.map Block.body).getD []⟩) rest
        | none => none
      else
        match inside with
        | none => scan none rest
        | some block =>
            if (closing block.label).isPrefixOf line then (scan none rest).map (block :: ·)
            else scan (some { block with body := block.body ++ line.filter (!isFiller ·) }) rest

/-- The blocks of a file. -/
def blocks (file : Bytes) : Option (List Block) :=
  scan none (Text.splitBy (fun c => c == '\n' || c == '\r') (file.map fun b => Char.ofNat b.toNat))

/-! ## Elements -/

/-- An element: a tag and its content. -/
structure Element where
  /-- The tag. -/
  tag : UInt8
  /-- The content. -/
  content : Bytes
deriving DecidableEq, Repr

/-- The number that octets give, most significant first. -/
def number (bs : Bytes) : Nat := bs.foldl (fun n b => n * 256 + b.toNat) 0

/-- A length in its one form, and the rest. -/
def length? : Bytes → Option (Nat × Bytes)
  | [] => none
  | b :: rest =>
      if b < 0x80 then some (b.toNat, rest)
      else
        let width := b.toNat - 0x80
        let n := number (rest.take width)
        if width = 0 || 4 < width || rest.length < width then none
        else if n < 0x80 || n < 1 <<< (8 * (width - 1)) then none
        else some (n, rest.drop width)

/-- The element at the beginning of the octets, and the rest. -/
def element? : Bytes → Option (Element × Bytes)
  | [] => none
  | tag :: rest => do
      let (n, rest) ← length? rest
      if tag &&& 0x1F == 0x1F || rest.length < n then none
      else some (⟨tag, rest.take n⟩, rest.drop n)

/-- The elements that octets are made of, at most a number of them. -/
def elements? : Nat → Bytes → Option (List Element)
  | _, [] => some []
  | 0, _ :: _ => none
  | count + 1, b :: bs =>
      (element? (b :: bs)).bind fun (e, rest) => (elements? count rest).map (e :: ·)

/-- The tag of a sequence. -/
def sequenceTag : UInt8 := 0x30

/-- The tag of an integer. -/
def integerTag : UInt8 := 0x02

/-- The tag of a string of bits. -/
def bitsTag : UInt8 := 0x03

/-- The tag of the version of a certificate. -/
def versionTag : UInt8 := 0xA0

/-- The tags of what may follow the key in a certificate. -/
def optionalTags : List UInt8 := [0x81, 0x82, 0xA3]

/-- The version of the certificates that have one: the integer two. -/
def thirdVersion : Bytes := [0x02, 0x01, 0x02]

/-- The elements of what is signed in a certificate, after its version. -/
def isBody (algorithm : Element) : List Element → Bool
  | serial :: signature :: issuer :: validity :: subject :: key :: others =>
      serial.tag == integerTag && !serial.content.isEmpty && signature == algorithm
        && [issuer, validity, subject, key].all (·.tag == sequenceTag)
        && (others.map Element.tag).isSublist optionalTags
  | _ => false

/-- The elements of what is signed in a certificate. -/
def isSigned (algorithm : Element) : List Element → Bool
  | first :: rest =>
      if first.tag == versionTag then first.content == thirdVersion && isBody algorithm rest
      else isBody algorithm (first :: rest)
  | [] => false

/-- The parts of a certificate: what is signed, how, and the signature. -/
def isParts : List Element → Bool
  | [signed, algorithm, signature] =>
      signed.tag == sequenceTag && algorithm.tag == sequenceTag && signature.tag == bitsTag
        && signature.content.head? == some 0
        && (elements? 10 signed.content).any (isSigned algorithm)
  | _ => false

/-- Whether octets are made up like a certificate. -/
def isCertificate (der : Bytes) : Bool :=
  match elements? 1 der with
  | some [whole] => whole.tag == sequenceTag && (elements? 3 whole.content).any isParts
  | _ => false

/-! ## Files -/

/-- The kinds of blocks that are read. -/
def knownLabels : List String :=
  ["CERTIFICATE", "PUBLIC KEY", "RSA PRIVATE KEY", "PRIVATE KEY", "EC PRIVATE KEY", "X509 CRL",
    "CERTIFICATE REQUEST", "ECHCONFIG"]

/-- Whether a block is sound. -/
def isSound (b : Block) : Bool :=
  if knownLabels.contains b.label then
    (Text.Base64.decode? b.body).any fun der => b.label != "CERTIFICATE" || isCertificate der
  else true

/-- Whether a file of certificates is accepted. -/
def acceptable (file : Bytes) : Bool := (blocks file).any fun bs => bs.all isSound

end VersionedApi.Certificate
