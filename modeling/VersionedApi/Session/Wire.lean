import VersionedApi.Session.Transport

/-!
# Messages on a connection

A request as the octets that are sent, and a reply read from the octets that come back until the
connection ends.  A connection carries one exchange.  The body of a reply is as long as its headers
say, or comes in chunks, or lasts to the end; one that ends too early is kept with a fault.
-/

namespace VersionedApi.Wire

/-! ## Requests -/

/-- The end of a line. -/
def lineBreak : Bytes := [0x0D, 0x0A]

/-- A header as a line. -/
def headerLine (name : String) (value : Bytes) : Bytes :=
  Utf8.encode (name ++ ": ") ++ value ++ lineBreak

/-- The host and the port of a URL. -/
def hostText (u : Url) : String :=
  (u.host?.map Url.Host.render).getD "" ++
    match u.authority.bind Url.Authority.port with
    | some port => ":" ++ String.ofList (Text.decimal port.toNat)
    | none => ""

/-- What a request asks a server for. -/
def target (u : Url) : String :=
  u.path.render ++
    match u.query with
    | some query => "?" ++ query
    | none => ""

/-- The headers that a connection needs, those of the caller apart. -/
def ownHeaders (d : Dispatch) : List (String × String) :=
  let length := match d.body with
    | some body => [("content-length", String.ofList (Text.decimal body.length))]
    | none => []
  ([("host", hostText d.url), ("accept", "*/*"), ("connection", "close")] ++ length).filter
    fun (name, _) => !d.headers.contains ⟨name⟩

/-- A request as octets. -/
def ofDispatch (d : Dispatch) : Bytes :=
  Utf8.encode (d.method ++ " " ++ target d.url ++ " HTTP/1.1") ++ lineBreak ++
    (ownHeaders d).flatMap (fun (name, value) => headerLine name (Utf8.encode value)) ++
    d.headers.toList.flatMap (fun (name, value) => headerLine name.text value.bytes) ++
    lineBreak ++ d.body.getD []

/-! ## Replies -/

/-- The octets before and after the first end of a line. -/
def line? : Bytes → Option (Bytes × Bytes)
  | 0x0D :: 0x0A :: rest => some ([], rest)
  | b :: rest => (line? rest).map fun (l, rest) => (b :: l, rest)
  | [] => none

/-- The lines up to an empty one, and what follows it. -/
def head? : Nat → Bytes → Option (List Bytes × Bytes)
  | 0, _ => none
  | count + 1, bs =>
      match line? bs with
      | some ([], rest) => some ([], rest)
      | some (l, rest) => (head? count rest).map fun (ls, rest) => (l :: ls, rest)
      | none => none

/-- The ASCII characters of octets. -/
def characters (bs : Bytes) : List Char := bs.map fun b => Char.ofNat b.toNat

/-- The status of a first line. -/
def status? (l : Bytes) : Option Nat :=
  match Text.splitOn ' ' (characters l) with
  | version :: code :: _ =>
      if "HTTP/1.".toList.isPrefixOf version && code.length = 3 && code.all Text.isDigit then
        some (Text.decimalValue code)
      else none
  | _ => none

/-- The header of a line. -/
def header? (l : Bytes) : Option (HeaderName × HeaderValue) :=
  (Text.cutBy? (· == 0x3A) l).bind fun (name, value) =>
    match HeaderName.ofText? (String.ofList (characters name)),
        HeaderValue.ofBytes? (Text.trimBy HeaderValue.isBlank value) with
    | .ok name, .ok value => some (name, value)
    | _, _ => none

/-- A body, and the fault that cuts it short. -/
abbrev Content := Bytes × Option String

/-- The fault of a body that ends too early. -/
def tooEarly : String := "end of file before message length reached"

/-- The body of a number of octets. -/
def sized (length : Nat) (bs : Bytes) : Content :=
  (bs.take length, if bs.length < length then some tooEarly else none)

/-- The size of a chunk, from its line. -/
def chunkSize? (l : Bytes) : Option Nat :=
  let ds := (characters l).takeWhile fun c => (Text.hexValue? c).isSome
  if ds.isEmpty then none
  else some ((ds.filterMap Text.hexValue?).foldl (fun n d => n * 16 + d) 0)

/-- The body of chunks. -/
def chunked : Nat → Bytes → Content
  | 0, _ => ([], some tooEarly)
  | count + 1, bs =>
      match line? bs with
      | none => ([], some tooEarly)
      | some (l, rest) =>
          match chunkSize? l with
          | none => ([], some "invalid chunk size line")
          | some 0 => ([], none)
          | some size =>
              if rest.length < size then (rest, some tooEarly)
              else
                let (body, fault) := chunked count (rest.drop (size + 2))
                (rest.take size ++ body, fault)

/-- The text of a header in small letters. -/
def lowered (hs : HeaderMap) (name : String) : Option (List Char) :=
  ((hs.get? ⟨name⟩).bind HeaderValue.text?).map fun s => Text.lower s.toList

/-- The body that headers announce. -/
def content (hs : HeaderMap) (bs : Bytes) : Content :=
  if lowered hs "transfer-encoding" = some "chunked".toList then chunked (bs.length + 1) bs
  else
    match (lowered hs "content-length").bind (Text.unsigned? UInt64.size) with
    | some length => sized length bs
    | none => (bs, none)

/-- What comes back, from the octets up to the end of the connection. -/
def toDelivery (bs : Bytes) : Delivery :=
  match head? (bs.length + 1) bs with
  | some (first :: lines, rest) =>
      match status? first, lines.mapM header? with
      | some status, some pairs =>
          let headers := HeaderMap.ofList pairs
          let (body, fault) := content headers rest
          .reply status headers body fault
      | _, _ => .hangUp
  | _ => .hangUp

end VersionedApi.Wire
