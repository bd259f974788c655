import VersionedApi.Url.Basic

/-!
# Form encoding

Pairs of texts as a query: names and values with an equals sign between them and ampersands
between the pairs, spaces as plus signs, everything but letters, digits and `*-._` percent-encoded.
Reading undoes this; a piece without an equals sign is a name with an empty value, and empty
pieces are left out.
-/

namespace VersionedApi.Url.Form

open VersionedApi.Text

/-- Whether an octet stands for itself. -/
def isPlain (b : UInt8) : Bool :=
  let c := Char.ofNat b.toNat
  isDigit c || ('a' ≤ c && c ≤ 'z') || ('A' ≤ c && c ≤ 'Z') || Percent.oneOf "*-._" c

/-- The characters that stand for an octet. -/
def encodeOctet (b : UInt8) : List Char :=
  if isPlain b then [Char.ofNat b.toNat] else if b = 0x20 then ['+'] else Percent.escape b

/-- The form of a name or a value. -/
def encodeText (s : String) : List Char := (Utf8.encode s).flatMap encodeOctet

/-- The form of a pair. -/
def encodePair (pair : String × String) : List Char :=
  encodeText pair.1 ++ '=' :: encodeText pair.2

/-- The form of a list of pairs. -/
def encode (pairs : List (String × String)) : List Char :=
  ['&'].intercalate (pairs.map encodePair)

/-- The text that a name or a value in a form stands for. -/
def decodeText (cs : List Char) : String :=
  let spaced := cs.map fun c => if c = '+' then ' ' else c
  Utf8.lossy (Percent.decode (Utf8.encode (String.ofList spaced)))

/-- The pair of a piece. -/
def decodePair (piece : List Char) : String × String :=
  match cut? '=' piece with
  | some (name, value) => (decodeText name, decodeText value)
  | none => (decodeText piece, "")

/-- The pairs of a form. -/
def decode (cs : List Char) : List (String × String) :=
  ((splitOn '&' cs).filter (!·.isEmpty)).map decodePair

end VersionedApi.Url.Form

namespace VersionedApi.Url

/-- The URL with pairs added at the end of its query. -/
def addPairs (u : Url) (pairs : List (String × String)) : Url :=
  if pairs.isEmpty then u
  else
    let added := String.ofList (Form.encode pairs)
    let query := match u.query with
      | none => added
      | some q => if q = "" then added else q ++ "&" ++ added
    { u with query := some query }

end VersionedApi.Url
