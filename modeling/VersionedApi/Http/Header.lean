import VersionedApi.Error
import VersionedApi.Text.Blank

/-!
# Headers

Header names are tokens without regard to case and are kept in small letters.  A header map keeps
its names in the order in which they first came, and the values of one name together: `append`
adds a value to those of its name, `insert` puts a value in place of all of them.  `values_append`
and `values_insert` say so.

A value may be marked sensitive.  The mark hides it wherever headers are shown.
-/

namespace VersionedApi

/-- The name of a header, in small letters. -/
structure HeaderName where
  /-- The letters. -/
  text : String
deriving DecidableEq, Repr

namespace HeaderName

/-- Whether a character may stand in a token. -/
def isTokenChar (c : Char) : Bool :=
  ('a' ≤ c && c ≤ 'z') || ('A' ≤ c && c ≤ 'Z') || ('0' ≤ c && c ≤ '9')
    || "!#$%&'*+-.^_`|~".toList.contains c

/-- The name that a text spells. -/
def ofText? (s : String) : Except HeaderFault HeaderName :=
  if s.toList.isEmpty || !s.toList.all isTokenChar then .error .name
  else .ok ⟨String.ofList (s.toList.map Char.toLower)⟩

/-- The type of a body. -/
def contentType : HeaderName := ⟨"content-type"⟩

/-- The program that sends a request. -/
def userAgent : HeaderName := ⟨"user-agent"⟩

/-- The place to which a reply redirects. -/
def location : HeaderName := ⟨"location"⟩

/-- The token that authorizes a request. -/
def authToken : HeaderName := ⟨"x-auth-token"⟩

end HeaderName

/-- The value of a header. -/
structure HeaderValue where
  /-- The octets. -/
  bytes : Bytes
  /-- Whether the value is to be hidden. -/
  sensitive : Bool := false
deriving DecidableEq, Repr

namespace HeaderValue

/-- Whether an octet may stand in a value: none of the controls but the tab. -/
def isAllowed (b : UInt8) : Bool := (0x20 ≤ b && b ≠ 0x7F) || b == 0x09

/-- The value of the given octets. -/
def ofBytes? (bytes : Bytes) : Except HeaderFault HeaderValue :=
  if bytes.all isAllowed then .ok { bytes } else .error .value

/-- The value of a text. -/
def ofText? (s : String) : Except HeaderFault HeaderValue := ofBytes? (Utf8.encode s)

/-- Whether an octet is a blank that may surround a value on its way. -/
def isBlank (b : UInt8) : Bool := b == 0x20 || b == 0x09

/-- The value without the blanks around it, as it arrives. -/
def arrived (v : HeaderValue) : HeaderValue := { v with bytes := Text.trimBy isBlank v.bytes }

/-- Whether an octet is printable ASCII or a tab. -/
def isPrintable (b : UInt8) : Bool := (0x20 ≤ b && b < 0x7F) || b == 0x09

/-- The text of a value, if all of it is printable. -/
def text? (v : HeaderValue) : Option String :=
  if v.bytes.all isPrintable then some (String.ofList (v.bytes.map fun b => Char.ofNat b.toNat))
  else none

/-- The characters that show an octet. -/
def showOctet (b : UInt8) : List Char :=
  if b = 0x22 then ['\\', '"']
  else if isPrintable b then [Char.ofNat b.toNat]
  else '\\' :: 'x' :: Text.hexPair b

/-- The text that shows a value, or that hides it. -/
def shown (v : HeaderValue) : String :=
  if v.sensitive then "Sensitive"
  else String.ofList ('"' :: v.bytes.flatMap showOctet ++ ['"'])

end HeaderValue

/-- Headers, as the values of each name. -/
structure HeaderMap where
  /-- The names in order, each with its values. -/
  groups : List (HeaderName × List HeaderValue)
deriving DecidableEq, Repr

namespace HeaderMap

/-- No headers. -/
def empty : HeaderMap := ⟨[]⟩

/-- The values of a name, in order. -/
def values (h : HeaderMap) (name : HeaderName) : List HeaderValue := (h.groups.lookup name).getD []

/-- The first value of a name. -/
def get? (h : HeaderMap) (name : HeaderName) : Option HeaderValue := (h.values name).head?

/-- Whether a name has a value. -/
def contains (h : HeaderMap) (name : HeaderName) : Bool := h.groups.any (·.1 == name)

/-- The groups with the values of one name changed, put last if the name is new. -/
def update (name : HeaderName) (change : List HeaderValue → List HeaderValue) :
    List (HeaderName × List HeaderValue) → List (HeaderName × List HeaderValue)
  | [] => [(name, change [])]
  | (n, vs) :: rest =>
      if n = name then (n, change vs) :: rest else (n, vs) :: update name change rest

/-- The headers with a value in place of those of its name. -/
def insert (h : HeaderMap) (name : HeaderName) (value : HeaderValue) : HeaderMap :=
  ⟨update name (fun _ => [value]) h.groups⟩

/-- The headers with a value added to those of its name. -/
def append (h : HeaderMap) (name : HeaderName) (value : HeaderValue) : HeaderMap :=
  ⟨update name (· ++ [value]) h.groups⟩

/-- The names and values in order. -/
def toList (h : HeaderMap) : List (HeaderName × HeaderValue) :=
  h.groups.flatMap fun (name, vs) => vs.map fun v => (name, v)

/-- The headers of a list, each appended. -/
def ofList (pairs : List (HeaderName × HeaderValue)) : HeaderMap :=
  pairs.foldl (fun h (name, value) => h.append name value) empty

/-- The headers as they arrive. -/
def arrived (h : HeaderMap) : HeaderMap :=
  ⟨h.groups.map fun (name, vs) => (name, vs.map HeaderValue.arrived)⟩

/-- The text that shows headers. -/
def shown (h : HeaderMap) : String :=
  "\x7b" ++
    ", ".intercalate (h.toList.map fun (name, v) => "\"" ++ name.text ++ "\": " ++ v.shown) ++
    "\x7d"

/-! ## The values of a name -/

/-- A change of the values of one name leaves those of the others alone. -/
theorem lookup_update (name other : HeaderName) (change : List HeaderValue → List HeaderValue)
    (groups : List (HeaderName × List HeaderValue)) :
    ((update name change groups).lookup other).getD [] =
      if other = name then change ((groups.lookup name).getD [])
      else (groups.lookup other).getD [] := by
  induction groups with
  | nil =>
      by_cases h : other = name
      · simp [update, h]
      · simp [update, List.lookup_cons, h, beq_eq_false_iff_ne.2 h]
  | cons g rest ih =>
      obtain ⟨n, vs⟩ := g
      unfold update
      by_cases hn : n = name
      · subst hn
        by_cases h : other = n
        · simp [h]
        · simp [List.lookup_cons, h, beq_eq_false_iff_ne.2 h]
      · by_cases h : other = n
        · subst h
          simp [hn]
        · simp [hn, List.lookup_cons, beq_eq_false_iff_ne.2 h, beq_eq_false_iff_ne.2 (Ne.symm hn), ih]

/-- An inserted value is the only one of its name. -/
@[simp] theorem values_insert (h : HeaderMap) (name other : HeaderName) (value : HeaderValue) :
    (h.insert name value).values other = if other = name then [value] else h.values other := by
  simp [insert, values, lookup_update]

/-- An appended value is the last one of its name. -/
@[simp] theorem values_append (h : HeaderMap) (name other : HeaderName) (value : HeaderValue) :
    (h.append name value).values other =
      if other = name then h.values name ++ [value] else h.values other := by
  simp [append, values, lookup_update]

@[simp] theorem values_empty (name : HeaderName) : empty.values name = [] := rfl

end HeaderMap

end VersionedApi
