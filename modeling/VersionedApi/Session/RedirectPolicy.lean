import VersionedApi.Json.Shape
import VersionedApi.Text.Blank
import VersionedApi.Text.Lowercase

/-!
# Redirect policies

How many redirects a request may follow.  A policy is written as a truth value, for all or none,
or as a number; as a text it may also be spelled by a word.
-/

namespace VersionedApi

/-- How many redirects a request may follow. -/
inductive RedirectPolicy where
  /-- None. -/
  | never
  /-- A number of them. -/
  | limit (hops : UInt32)
  /-- All. -/
  | unlimited
deriving DecidableEq, Repr

namespace RedirectPolicy

/-- The policy where none is set. -/
def standard : RedirectPolicy := .limit 30

/-- What remains after one redirect, or nothing if it may not be followed. -/
def takeHop : RedirectPolicy → Option RedirectPolicy
  | .never => none
  | .limit hops => if hops = 0 then none else some (.limit (hops - 1))
  | .unlimited => some .unlimited

/-- What remains after one redirect was asked for, whether or not it may be followed. -/
def spend (p : RedirectPolicy) : RedirectPolicy := p.takeHop.getD p

/-- The policy of a truth value. -/
def ofBool (follow : Bool) : RedirectPolicy := if follow then .unlimited else .never

/-- The words for all redirects. -/
def unlimitedWords : List String := ["true", "yes", "forever"]

/-- The words for no redirect. -/
def neverWords : List String := ["false", "no", "never"]

/-- The policy that a text spells: a word in any case, or a number, with blanks around it. -/
def ofText? (s : String) : Option RedirectPolicy :=
  let word := Text.lower (Text.trim s.toList)
  if unlimitedWords.contains (String.ofList word) then some .unlimited
  else if neverWords.contains (String.ofList word) then some .never
  else (Text.unsigned? UInt32.size word).map fun n => .limit (UInt32.ofNat n)

/-- The policy that a text spells, or the wording of its refusal. -/
def parse (s : String) : Except String RedirectPolicy :=
  match ofText? s with
  | some p => .ok p
  | none => .error ("Invalid redirect policy: " ++ s)

/-- The policy of a value. -/
def ofJson : Json → Json.Decoded RedirectPolicy
  | .bool b => .ok (ofBool b)
  | .int n =>
      if 0 ≤ n && n < UInt32.size then .ok (.limit (UInt32.ofNat n.toNat))
      else .error (.noVariant "RedirectSetting")
  | _ => .error (.noVariant "RedirectSetting")

/-- The value of a policy. -/
def toJson : RedirectPolicy → Json
  | .never => .bool false
  | .limit hops => .int hops.toNat
  | .unlimited => .bool true

/-- The text that shows a policy. -/
def shown : RedirectPolicy → String
  | .never => "Never"
  | .limit hops => "Limit(" ++ String.ofList (Text.decimal hops.toNat) ++ ")"
  | .unlimited => "Unlimited"

end RedirectPolicy

end VersionedApi
