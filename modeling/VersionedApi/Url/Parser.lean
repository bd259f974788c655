import VersionedApi.Url.Basic

/-!
# Reading URLs

A text is cleaned first: controls and spaces at its ends and tabs and line breaks anywhere are
left out.  The first number sign begins the fragment, and before it the first question mark begins
the query, whatever else the text holds; what remains is the scheme, the authority and the path.

A *reference* is a text that may leave out the scheme and what follows it; `Url.join` takes the
missing parts from a base.
-/

namespace VersionedApi.Url

open VersionedApi.Text

/-! ## The parts of a text -/

/-- The text without what no URL holds. -/
def clean (text : String) : List Char :=
  (text.toList.dropWhile (·.toNat ≤ 0x20)).reverse.dropWhile (·.toNat ≤ 0x20) |>.reverse.filter
    fun c => !(c == '\t' || c == '\n' || c == '\r')

/-- A text cut into what stands before the query, the query and the fragment. -/
structure Parts where
  /-- What stands before the query. -/
  body : List Char
  /-- The query. -/
  query : Option (List Char)
  /-- The fragment. -/
  fragment : Option (List Char)

/-- The parts of a text. -/
def Parts.of (cs : List Char) : Parts :=
  let (front, fragment) := match cut? '#' cs with
    | some (front, fragment) => (front, some fragment)
    | none => (cs, none)
  match cut? '?' front with
  | some (body, query) => ⟨body, some query, fragment⟩
  | none => ⟨front, none, fragment⟩

/-- The encoded query. -/
def encodeQuery (kind : SchemeKind) (cs : List Char) : String :=
  String.ofList (Percent.encode kind.querySet cs)

/-- The encoded fragment. -/
def encodeFragment (cs : List Char) : String :=
  String.ofList (Percent.encode Percent.fragmentSet cs)

/-- A URL of the given parts, its query and fragment encoded. -/
def assemble (scheme : String) (authority : Option Authority) (path : Path) (parts : Parts) : Url :=
  { scheme, authority, path
    query := parts.query.map (encodeQuery (schemeKind scheme))
    fragment := parts.fragment.map encodeFragment }

/-! ## Authorities -/

/-- The user name and the password before the last at sign.  An empty password is none. -/
def parseUserinfo (cs : List Char) : String × Option String :=
  let enc (part : List Char) := String.ofList (Percent.encode Percent.userinfoSet part)
  match cut? ':' cs with
  | some (name, []) => (enc name, none)
  | some (name, password) => (enc name, some (enc password))
  | none => (enc cs, none)

/-- The host and the text after the colon that ends it; a colon inside brackets ends nothing. -/
def splitPort (inBrackets : Bool) : List Char → List Char × Option (List Char)
  | [] => ([], none)
  | c :: cs =>
      if c == ':' && !inBrackets then ([], some cs)
      else
        let inside := if c == '[' then true else if c == ']' then false else inBrackets
        let (host, port) := splitPort inside cs
        (c :: host, port)

/-- A port: digits only, none at all standing for the default. -/
def parsePort (scheme : String) (cs : List Char) : Except UrlFault (Option UInt16) :=
  if !cs.all isDigit || 65535 < decimalValue cs then .error .invalidPort
  else if cs.isEmpty || defaultPort? scheme = some (UInt16.ofNat (decimalValue cs)) then .ok none
  else .ok (some (UInt16.ofNat (decimalValue cs)))

/-- The host of a text; the empty text is the empty host, which a special scheme refuses. -/
def parseHost (kind : SchemeKind) (cs : List Char) : Except UrlFault (Option Host) :=
  match kind with
  | .generic => if cs.isEmpty then .ok none else (Host.parseOpaque cs).map some
  | _ => if cs.isEmpty then .error .emptyHost else (Host.parseSpecial cs).map some

/-- The authority of a text.  User information without a host after it is refused, and so is a
port; `followed` is whether the URL goes on after the authority. -/
def parseAuthority (scheme : String) (cs : List Char) (followed : Bool) :
    Except UrlFault Authority := do
  let (userinfo, rest) := match cutLast? '@' cs with
    | some (userinfo, rest) => (userinfo, rest)
    | none => ([], cs)
  if cs = ['@'] && followed then throw .emptyHost
  let (username, password) := parseUserinfo userinfo
  let (hostText, portText) := splitPort false rest
  let host ← parseHost (schemeKind scheme) hostText
  if host.isNone && portText.isSome then throw .emptyHost
  let port ← match portText with
    | some digits => parsePort scheme digits
    | none => pure none
  if host.isNone && (username ≠ "" || password.isSome) then throw .emptyHost
  pure { username, password, host, port }

/-- A URL whose authority begins the body. -/
def withAuthority (scheme : String) (body : List Char) (parts : Parts) : Except UrlFault Url :=
  let kind := schemeKind scheme
  let authority := body.takeWhile fun c => !kind.isSlash c
  let path := body.dropWhile fun c => !kind.isSlash c
  let followed := !path.isEmpty || parts.query.isSome || parts.fragment.isSome
  (parseAuthority scheme authority followed).map fun a =>
    assemble scheme (some a) (.rooted (Path.parse kind path)) parts

/-! ## Files -/

/-- Whether a text begins with a segment that is a drive letter. -/
def startsWithDrive (cs : List Char) : Bool :=
  Path.isDriveLetter (String.ofList (cs.takeWhile fun c => !SchemeKind.file.isSlash c))

/-- A file URL without user information and port. -/
def fileUrl (host : Option Host) (segments : List String) (parts : Parts) : Url :=
  assemble "file" (some { host }) (.rooted segments) parts

/-- The host of a file URL.  The local host is no host. -/
def parseFileHost (cs : List Char) : Except UrlFault (Option Host) :=
  if cs.isEmpty then .ok none
  else (Host.parseSpecial cs).map fun host =>
    if host = .name "localhost" then none else some host

/-- A file URL whose host stands at the beginning of the text.  A drive letter is no host, and a
path that begins with one leaves the host out. -/
def fileWithHost (cs : List Char) (parts : Parts) : Except UrlFault Url :=
  if startsWithDrive cs then .ok (fileUrl none (Path.parse .file cs) parts)
  else
    let hostText := cs.takeWhile fun c => !SchemeKind.file.isSlash c
    let rest := cs.dropWhile fun c => !SchemeKind.file.isSlash c
    (parseFileHost hostText).map fun host =>
      fileUrl (if startsWithDrive (rest.drop 1) then none else host) (Path.parse .file rest) parts

/-- A file URL of a text that has no scheme, resolved against the base if that is a file. -/
def parseFile (base : Option Url) (parts : Parts) : Except UrlFault Url :=
  let base := base.filter (·.scheme = "file")
  match parts.body with
  | c :: rest =>
      if SchemeKind.file.isSlash c then
        match rest with
        | d :: rest' =>
            if SchemeKind.file.isSlash d then fileWithHost rest' parts
            else .ok (fromRoot base (c :: rest) parts)
        | [] => .ok (fromRoot base (c :: rest) parts)
      else
        match base with
        | some b =>
            if startsWithDrive parts.body then
              .ok (fileUrl none (Path.parse .file parts.body) parts)
            else
              .ok (fileUrl b.host? (Path.follow .file (Path.parent b.segments) parts.body) parts)
        | none => .ok (fileUrl none (Path.parse .file parts.body) parts)
  | [] =>
      match base with
      | none => .ok (fileUrl none [""] parts)
      | some b =>
          if parts.query.isSome then .ok (assemble "file" b.authority b.path parts)
          else .ok { b with fragment := parts.fragment.map encodeFragment }
where
  /-- A file URL of a path that begins with one slash: the drive or else the host of the base are
  kept. -/
  fromRoot (base : Option Url) (path : List Char) (parts : Parts) : Url :=
    match base with
    | none => fileUrl none (Path.parse .file path) parts
    | some b =>
        if startsWithDrive (path.drop 1) then fileUrl none (Path.parse .file path) parts
        else
          match b.segments with
          | drive :: _ =>
              if Path.isDriveLetter drive then
                fileUrl none (Path.follow .file [drive] (path.drop 1)) parts
              else fileUrl b.host? (Path.parse .file path) parts
          | [] => fileUrl b.host? (Path.parse .file path) parts

/-! ## References -/

/-- A reference without a scheme, resolved against a base that is no file and has a hierarchy. -/
def resolve (base : Url) (parts : Parts) : Except UrlFault Url :=
  let kind := base.kind
  let isSlash (c : Char) : Bool := c == '/' || c == '\\'
  match parts.body with
  | [] =>
      if parts.query.isSome then .ok (assemble base.scheme base.authority base.path parts)
      else .ok { base with fragment := parts.fragment.map encodeFragment }
  | c :: rest =>
      if isSlash c then
        match rest with
        | d :: rest' =>
            if isSlash d then
              if c == '/' && d == '/' then withAuthority base.scheme rest' parts
              else withAuthority base.scheme (rest'.dropWhile isSlash) parts
            else fromRoot kind rest
        | [] => fromRoot kind rest
      else
        let path := Path.follow kind base.segments.dropLast parts.body
        .ok (assemble base.scheme base.authority (.rooted path) parts)
where
  /-- A URL of a path that begins with one slash. -/
  fromRoot (kind : SchemeKind) (rest : List Char) : Except UrlFault Url :=
    .ok (assemble base.scheme base.authority (.rooted (Path.follow kind [] rest)) parts)

/-- A URL with the given scheme, read from what follows the scheme. -/
def parseAfterScheme (base : Option Url) (scheme : String) (parts : Parts) : Except UrlFault Url :=
  match schemeKind scheme with
  | .file => parseFile base parts
  | .special =>
      let isSlash (c : Char) : Bool := c == '/' || c == '\\'
      let slashes := (parts.body.takeWhile isSlash).length
      match base with
      | some b =>
          if slashes < 2 && b.scheme = scheme then resolve b parts
          else withAuthority scheme (parts.body.dropWhile isSlash) parts
      | none => withAuthority scheme (parts.body.dropWhile isSlash) parts
  | .generic =>
      match parts.body with
      | '/' :: '/' :: rest => withAuthority scheme rest parts
      | '/' :: rest => .ok (assemble scheme none (.rooted (Path.follow .generic [] rest)) parts)
      | body =>
          let text := String.ofList (Percent.encode Percent.controls body)
          .ok (assemble scheme none (.plain text) parts)

/-- The URL of a reference, which a base completes if there is one. -/
def parseWith (base : Option Url) (text : String) : Except UrlFault Url :=
  let cs := clean text
  match splitScheme? cs with
  | some (scheme, rest) => parseAfterScheme base scheme (Parts.of rest)
  | none =>
      match base with
      | none => .error .relativeWithoutBase
      | some b =>
          if cs.head? = some '#' then
            .ok { b with fragment := (Parts.of cs).fragment.map encodeFragment }
          else if b.isFlat then .error .relativeToOpaqueBase
          else if b.kind = .file then parseFile (some b) (Parts.of cs)
          else resolve b (Parts.of cs)

/-- The URL of a text. -/
def parse (text : String) : Except UrlFault Url := parseWith none text

/-- The URL of a reference that is found in a document at a base. -/
def join (base : Url) (reference : String) : Except UrlFault Url := parseWith (some base) reference

end VersionedApi.Url
