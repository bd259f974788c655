/-!
# Octets and text

Bodies and header values are octets.  This module writes text as UTF-8 and reads octets back, one
octet at a time, as a machine that is either between characters or inside one.  The machine cuts
its input into characters and *faults*, where a fault is the longest beginning of a character that
the next octet rules out.  Strict reading (`Utf8.decode?`) refuses a fault, lossy reading
(`Utf8.lossy`) shows each as one `U+FFFD`.

The reading is structural on the octets: an octet that rules out the character it stands in is
read again as a first octet in the same step.
-/

namespace VersionedApi

/-- A sequence of octets. -/
abbrev Bytes := List UInt8

namespace Utf8

/-- The UTF-8 form of a text. -/
def encode (s : String) : Bytes := s.toList.flatMap String.utf8EncodeChar

/-- Where the reader stands between two octets. -/
inductive State where
  /-- Between characters. -/
  | start
  /-- Inside a character: `more` octets are owed, the next one lies in `lo .. hi`, and the octets
  so far give `value`. -/
  | inside (more : Nat) (lo hi : UInt8) (value : Nat)
deriving Repr, DecidableEq

/-- The reading of a first octet: what it completes (`none` is a fault) and the state after it. -/
def first (b : UInt8) : List (Option Char) × State :=
  let n := b.toNat
  if n < 0x80 then ([some (Char.ofNat n)], .start)
  else if 0xC2 ≤ n ∧ n ≤ 0xDF then ([], .inside 1 0x80 0xBF (n - 0xC0))
  else if n = 0xE0 then ([], .inside 2 0xA0 0xBF 0)
  else if n = 0xED then ([], .inside 2 0x80 0x9F 0xD)
  else if 0xE1 ≤ n ∧ n ≤ 0xEF then ([], .inside 2 0x80 0xBF (n - 0xE0))
  else if n = 0xF0 then ([], .inside 3 0x90 0xBF 0)
  else if n = 0xF4 then ([], .inside 3 0x80 0x8F 4)
  else if 0xF1 ≤ n ∧ n ≤ 0xF3 then ([], .inside 3 0x80 0xBF (n - 0xF0))
  else ([none], .start)

/-- One octet read: the characters and faults it completes, and the state after it. -/
def step : State → UInt8 → List (Option Char) × State
  | .start, b => first b
  | .inside more lo hi value, b =>
      if lo ≤ b ∧ b ≤ hi then
        let value' := value * 64 + (b.toNat - 0x80)
        if more ≤ 1 then ([some (Char.ofNat value')], .start)
        else ([], .inside (more - 1) 0x80 0xBF value')
      else
        let (read, state) := first b
        (none :: read, state)

/-- The characters and faults of a sequence of octets, read from a state.  A character that the
end cuts short is a fault. -/
def scan : State → Bytes → List (Option Char)
  | .start, [] => []
  | .inside .., [] => [none]
  | state, b :: bs => (step state b).1 ++ scan (step state b).2 bs

/-- The text whose UTF-8 form the octets are, if there is one. -/
def decode? (bs : Bytes) : Option String := ((scan .start bs).mapM id).map String.ofList

/-- The text of the octets with every fault shown as `U+FFFD`. -/
def lossy (bs : Bytes) : String :=
  String.ofList ((scan .start bs).map fun c => c.getD '\uFFFD')

end Utf8

end VersionedApi
