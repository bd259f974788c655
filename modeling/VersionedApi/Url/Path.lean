import VersionedApi.Url.Scheme
import VersionedApi.Text.Split

/-!
# Paths

The path of a URL is either a list of segments, each behind a slash, or a plain text without
structure.  A path is resolved segment by segment from a starting list: a single dot adds nothing,
a double dot takes the last segment away, any other segment is added, percent-encoded.  A dot in
last place leaves an empty segment, so that the path still ends in a slash.

A drive letter in last place is not taken away by a double dot.
-/

namespace VersionedApi.Url

/-- A path. -/
inductive Path where
  /-- Segments, each behind a slash. -/
  | rooted (segments : List String)
  /-- A text without structure. -/
  | plain (text : String)
deriving DecidableEq, Repr

namespace Path

/-- The text of a path. -/
def render : Path → String
  | .rooted segments => String.join (segments.map ("/" ++ ·))
  | .plain text => text

/-- Whether a segment means the current place. -/
def isSingleDot (s : String) : Bool := s.toLower == "." || s.toLower == "%2e"

/-- Whether a segment means the place above. -/
def isDoubleDot (s : String) : Bool :=
  s.toLower == ".." || s.toLower == ".%2e" || s.toLower == "%2e." || s.toLower == "%2e%2e"

/-- Whether a segment is a drive letter: a letter and a colon or a bar. -/
def isDriveLetter (s : String) : Bool :=
  match s.toList with
  | [letter, mark] => letter.isAlpha && (mark == ':' || mark == '|')
  | _ => false

/-- A drive letter with its mark made a colon; any other segment as it is. -/
def normalDrive (s : String) : String :=
  if isDriveLetter s then String.ofList (s.toList.take 1 ++ [':']) else s

/-- The segments without the last one, unless that is a drive letter. -/
def parent (segments : List String) : List String :=
  if segments.getLast?.any isDriveLetter then segments else segments.dropLast

/-- The segments after one that is not in last place. -/
def descend (segments : List String) (s : String) : List String :=
  if isDoubleDot s then parent segments
  else if isSingleDot s then segments
  else segments ++ [s]

/-- The segments after one in last place. -/
def close (segments : List String) (s : String) : List String :=
  if isDoubleDot s then parent segments ++ [""]
  else if isSingleDot s then segments ++ [""]
  else segments ++ [s]

/-- The segments reached from a starting list. -/
def resolve (start : List String) : List String → List String
  | [] => start
  | [s] => close start s
  | s :: rest => resolve (descend start s) rest

/-- The encoded segments of a text. -/
def segmentsOf (kind : SchemeKind) (cs : List Char) : List String :=
  (Text.splitBy kind.isSlash cs).map fun piece =>
    String.ofList (Percent.encode Percent.pathSet piece)

/-- The segments of a path of a file: the empty ones in front are left out. -/
def trimFile (segments : List String) : List String :=
  match segments.dropWhile (· == "") with
  | [] => [""]
  | s :: rest => s :: rest

/-- The segments that a relative text leads to from a starting list. -/
def follow (kind : SchemeKind) (start : List String) (cs : List Char) : List String :=
  match kind, start, segmentsOf kind cs with
  | .file, [], first :: rest => trimFile (resolve [] (normalDrive first :: rest))
  | .file, start, segments => trimFile (resolve start segments)
  | _, start, segments => resolve start segments

/-- The segments of an absolute text, with or without its slash. -/
def parse (kind : SchemeKind) (cs : List Char) : List String :=
  match kind, cs with
  | .generic, [] => []
  | _, [] => [""]
  | _, c :: rest => if kind.isSlash c then follow kind [] rest else follow kind [] (c :: rest)

end Path

end VersionedApi.Url
