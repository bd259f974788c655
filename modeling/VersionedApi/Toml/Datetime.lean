import VersionedApi.Toml.Text

/-!
# Dates and times

A date, a time of day, or both with or without an offset from universal time.  A date has to exist
in the calendar; a minute may have a sixty-first second.
-/

namespace VersionedApi.Toml.Datetime

open VersionedApi.Text

/-- A numeral of a fixed width within bounds. -/
def numeral (width lo hi : Nat) (cs : List Char) : Reading Nat :=
  let ds := (cs.take width).takeWhile isDigit
  let n := decimalValue ds
  if ds.length = width && lo ≤ n && n ≤ hi then some (n, cs.drop width) else none

/-- The rest after a character. -/
def sign (c : Char) : List Char → Option (List Char)
  | c' :: rest => if c' = c then some rest else none
  | [] => none

/-- Whether a year has a day more. -/
def isLeap (year : Nat) : Bool := year % 4 == 0 && (year % 100 != 0 || year % 400 == 0)

/-- The days of a month. -/
def days (year month : Nat) : Nat :=
  if month = 2 then if isLeap year then 29 else 28
  else if [4, 6, 9, 11].contains month then 30
  else 31

/-- The rest after a date. -/
def date (cs : List Char) : Option (List Char) := do
  let (year, cs) ← numeral 4 0 9999 cs
  let (month, cs) ← numeral 2 1 12 (← sign '-' cs)
  let (_, cs) ← numeral 2 1 (days year month) (← sign '-' cs)
  pure cs

/-- The rest after a fraction of a second, if there is one. -/
def fraction (cs : List Char) : List Char :=
  match cs with
  | '.' :: d :: rest => if isDigit d then rest.dropWhile isDigit else cs
  | _ => cs

/-- The rest after hours and minutes. -/
def clock (cs : List Char) : Option (List Char) := do
  let (_, cs) ← numeral 2 0 23 cs
  let (_, cs) ← numeral 2 0 59 (← sign ':' cs)
  pure cs

/-- The rest after a time of day. -/
def time (cs : List Char) : Option (List Char) := do
  let (_, cs) ← numeral 2 0 60 (← sign ':' (← clock cs))
  pure (fraction cs)

/-- The rest after an offset from universal time, if there is one. -/
def offset (cs : List Char) : Option (List Char) :=
  match cs with
  | 'Z' :: rest => some rest
  | 'z' :: rest => some rest
  | '+' :: rest => clock rest
  | '-' :: rest => clock rest
  | _ => some cs

/-- Whether the characters begin like a date: with four digits and a hyphen. -/
def startsDate (cs : List Char) : Bool :=
  (cs.take 4).all isDigit && (cs.drop 4).head? == some '-'

/-- Whether the characters begin like a time of day: with two digits and a colon. -/
def startsTime (cs : List Char) : Bool :=
  (cs.take 2).all isDigit && (cs.drop 2).head? == some ':'

/-- The rest after a time of day that may follow a date. -/
def timeAfterDate (cs : List Char) : Option (List Char) :=
  match cs with
  | c :: rest =>
      if (c = 'T' || c = 't' || c = ' ') && startsTime rest then (time rest).bind offset
      else some cs
  | [] => some cs

/-- The rest after a date, a time of day or both. -/
def rest (cs : List Char) : Option (List Char) :=
  if startsDate cs then (date cs).bind timeAfterDate else time cs

/-- A date, a time of day or both, as it is written. -/
def read (cs : List Char) : Reading String :=
  (rest cs).map fun tail => (String.ofList (cs.take (cs.length - tail.length)), tail)

end VersionedApi.Toml.Datetime
