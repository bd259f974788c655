import VersionedApi.Text.Utf8

/-!
# UTF-8 read back

The form of a text is read as the text, strictly (`decode?_encode`) and with faults shown
(`lossy_encode`).  The reader is followed through the octets of one character, whatever comes after
them (`scan_encodeChar`).

ASCII texts have one octet for each character, so they compare octet by octet as they do character
by character (`encode_lt_iff_of_ascii`).
-/

namespace VersionedApi.Utf8

theorem toNat_ofNat_octet {k : Nat} (h : k < 256) : (UInt8.ofNat k).toNat = k := by
  rw [UInt8.toNat_ofNat']
  exact Nat.mod_eq_of_lt h

/-! ## Continuation octets -/

section

variable {lo hi : UInt8} {value x : Nat}

theorem scan_last (hx : x < 64) (hlo : lo.toNat ≤ x + 0x80) (hhi : x + 0x80 ≤ hi.toNat)
    (rest : Bytes) :
    scan (.inside 1 lo hi value) (UInt8.ofNat (x + 0x80) :: rest) =
      some (Char.ofNat (value * 64 + x)) :: scan .start rest := by
  have hb : (UInt8.ofNat (x + 0x80)).toNat = x + 0x80 := toNat_ofNat_octet (by omega)
  have hstep : step (.inside 1 lo hi value) (UInt8.ofNat (x + 0x80)) =
      ([some (Char.ofNat (value * 64 + x))], .start) := by
    rw [step, if_pos (by rw [UInt8.le_iff_toNat_le, UInt8.le_iff_toNat_le, hb]; exact ⟨hlo, hhi⟩), hb,
      Nat.add_sub_cancel]
    rfl
  rw [scan, hstep]
  rfl

theorem scan_more {more : Nat} (hmore : 2 ≤ more) (hx : x < 64) (hlo : lo.toNat ≤ x + 0x80)
    (hhi : x + 0x80 ≤ hi.toNat) (rest : Bytes) :
    scan (.inside more lo hi value) (UInt8.ofNat (x + 0x80) :: rest) =
      scan (.inside (more - 1) 0x80 0xBF (value * 64 + x)) rest := by
  have hb : (UInt8.ofNat (x + 0x80)).toNat = x + 0x80 := toNat_ofNat_octet (by omega)
  have hstep : step (.inside more lo hi value) (UInt8.ofNat (x + 0x80)) =
      ([], .inside (more - 1) 0x80 0xBF (value * 64 + x)) := by
    rw [step, if_pos (by rw [UInt8.le_iff_toNat_le, UInt8.le_iff_toNat_le, hb]; exact ⟨hlo, hhi⟩), hb,
      Nat.add_sub_cancel]
    dsimp only
    rw [if_neg (by omega)]
  rw [scan, hstep]
  rfl

theorem le_continuation (x : Nat) : (0x80 : UInt8).toNat ≤ x + 0x80 := by
  show 128 ≤ _
  omega

theorem continuation_le (hx : x < 64) : x + 0x80 ≤ (0xBF : UInt8).toNat := by
  show _ ≤ 191
  omega

end

/-! ## First octets -/

theorem scan_first_ascii {n : Nat} (h : n < 0x80) (rest : Bytes) :
    scan .start (UInt8.ofNat n :: rest) = some (Char.ofNat n) :: scan .start rest := by
  have hfirst : first (UInt8.ofNat n) = ([some (Char.ofNat n)], .start) := by
    rw [first, toNat_ofNat_octet (by omega)]
    exact if_pos h
  rw [scan, step, hfirst]
  rfl

theorem scan_first_two {x : Nat} (hlo : 2 ≤ x) (hhi : x < 32) (rest : Bytes) :
    scan .start (UInt8.ofNat (x + 0xC0) :: rest) = scan (.inside 1 0x80 0xBF x) rest := by
  have hfirst : first (UInt8.ofNat (x + 0xC0)) = ([], .inside 1 0x80 0xBF x) := by
    rw [first, toNat_ofNat_octet (by omega), if_neg (by omega), if_pos (by omega),
      Nat.add_sub_cancel]
  rw [scan, step, hfirst]
  rfl

/-- The first of three octets bounds the second one: no character has a shorter form, and none is
a surrogate. -/
theorem scan_first_three {x : Nat} (hhi : x < 16) (rest : Bytes) :
    scan .start (UInt8.ofNat (x + 0xE0) :: rest) =
      scan (.inside 2 (if x = 0 then 0xA0 else 0x80) (if x = 13 then 0x9F else 0xBF) x) rest := by
  have hfirst : first (UInt8.ofNat (x + 0xE0)) =
      ([], .inside 2 (if x = 0 then 0xA0 else 0x80) (if x = 13 then 0x9F else 0xBF) x) := by
    revert x
    decide
  rw [scan, step, hfirst]
  rfl

/-- The first of four octets bounds the second one: no character has a shorter form, and none lies
behind the last. -/
theorem scan_first_four {x : Nat} (hhi : x < 5) (rest : Bytes) :
    scan .start (UInt8.ofNat (x + 0xF0) :: rest) =
      scan (.inside 3 (if x = 0 then 0x90 else 0x80) (if x = 4 then 0x8F else 0xBF) x) rest := by
  have hfirst : first (UInt8.ofNat (x + 0xF0)) =
      ([], .inside 3 (if x = 0 then 0x90 else 0x80) (if x = 4 then 0x8F else 0xBF) x) := by
    revert x
    decide
  rw [scan, step, hfirst]
  rfl

/-! ## One character -/

section

variable {n : Nat}

theorem scan_two (hlo : 0x80 ≤ n) (hhi : n < 0x800) (rest : Bytes) :
    scan .start (UInt8.ofNat (n / 64 + 0xC0) :: UInt8.ofNat (n % 0x40 + 0x80) :: rest) =
      some (Char.ofNat n) :: scan .start rest := by
  rw [scan_first_two (by omega) (by omega),
    scan_last (by omega) (le_continuation _) (continuation_le (by omega)), Nat.div_add_mod']

theorem scan_three (hlo : 0x800 ≤ n) (hvalid : n < 0xD800 ∨ 0xDFFF < n) (hhi : n < 0x10000)
    (rest : Bytes) :
    scan .start (UInt8.ofNat (n / 4096 + 0xE0) :: UInt8.ofNat (n / 64 % 0x40 + 0x80) ::
        UInt8.ofNat (n % 0x40 + 0x80) :: rest) =
      some (Char.ofNat n) :: scan .start rest := by
  have hfrom : (if n / 4096 = 0 then (0xA0 : UInt8) else 0x80).toNat ≤ n / 64 % 0x40 + 0x80 := by
    split
    · show 160 ≤ _
      omega
    · exact le_continuation _
  have hto : n / 64 % 0x40 + 0x80 ≤ (if n / 4096 = 13 then (0x9F : UInt8) else 0xBF).toNat := by
    split
    · show _ ≤ 159
      omega
    · exact continuation_le (by omega)
  have hvalue : (n / 4096 * 64 + n / 64 % 0x40) * 64 + n % 0x40 = n := by omega
  rw [scan_first_three (by omega), scan_more (by decide) (by omega) hfrom hto,
    scan_last (by omega) (le_continuation _) (continuation_le (by omega)), hvalue]

theorem scan_four (hlo : 0x10000 ≤ n) (hhi : n < 0x110000) (rest : Bytes) :
    scan .start (UInt8.ofNat (n / 262144 + 0xF0) :: UInt8.ofNat (n / 4096 % 0x40 + 0x80) ::
        UInt8.ofNat (n / 64 % 0x40 + 0x80) :: UInt8.ofNat (n % 0x40 + 0x80) :: rest) =
      some (Char.ofNat n) :: scan .start rest := by
  have hfrom : (if n / 262144 = 0 then (0x90 : UInt8) else 0x80).toNat ≤
      n / 4096 % 0x40 + 0x80 := by
    split
    · show 144 ≤ _
      omega
    · exact le_continuation _
  have hto : n / 4096 % 0x40 + 0x80 ≤ (if n / 262144 = 4 then (0x8F : UInt8) else 0xBF).toNat := by
    split
    · show _ ≤ 143
      omega
    · exact continuation_le (by omega)
  have hvalue : ((n / 262144 * 64 + n / 4096 % 0x40) * 64 + n / 64 % 0x40) * 64 + n % 0x40 = n := by
    omega
  rw [scan_first_four (by omega), scan_more (by decide) (by omega) hfrom hto,
    scan_more (by decide) (by omega) (le_continuation _) (continuation_le (by omega)),
    scan_last (by omega) (le_continuation _) (continuation_le (by omega)), hvalue]

end

/-- The octets of a character are read as the character, whatever comes after them. -/
theorem scan_encodeChar (c : Char) (rest : Bytes) :
    scan .start (String.utf8EncodeChar c ++ rest) = some c :: scan .start rest := by
  have hvalid : c.toNat < 0xD800 ∨ 0xDFFF < c.toNat ∧ c.toNat < 0x110000 := c.valid
  have hc : Char.ofNat c.toNat = c := Char.ofNat_toNat c
  have hval : c.val.toNat = c.toNat := rfl
  rw [String.utf8EncodeChar, hval]
  generalize c.toNat = n at hvalid hc ⊢
  rw [← hc]
  split
  next h => exact scan_first_ascii (by omega) rest
  next h1 =>
    split
    next h2 =>
      rw [Nat.mod_eq_of_lt (show n / 64 < 0x20 by omega)]
      exact scan_two (by omega) (by omega) rest
    next h2 =>
      split
      next h3 =>
        rw [Nat.mod_eq_of_lt (show n / 4096 < 0x10 by omega)]
        exact scan_three (by omega) (by omega) (by omega) rest
      next h3 =>
        rw [Nat.mod_eq_of_lt (show n / 262144 < 0x08 by omega)]
        exact scan_four (by omega) (by omega) rest

/-! ## A text -/

theorem scan_flatMap : ∀ cs : List Char,
    scan .start (cs.flatMap String.utf8EncodeChar) = cs.map some
  | [] => rfl
  | c :: cs => by
      rw [List.flatMap_cons, scan_encodeChar, scan_flatMap cs]
      rfl

/-- The form of a text is read as the text. -/
theorem decode?_encode (s : String) : decode? (encode s) = some s := by
  have hread : ∀ cs : List Char, (cs.map some).mapM id = some cs := by
    intro cs
    induction cs with
    | nil => rfl
    | cons c cs ih =>
        rw [List.map_cons, List.mapM_cons, ih]
        rfl
  rw [decode?, encode, scan_flatMap, hread, Option.map_some, String.ofList_toList]

/-- Nothing in the form of a text is a fault. -/
theorem lossy_encode (s : String) : lossy (encode s) = s := by
  rw [lossy, encode, scan_flatMap, List.map_map]
  exact (congrArg String.ofList (List.map_id s.toList)).trans String.ofList_toList

/-! ## ASCII texts -/

theorem utf8EncodeChar_of_ascii {c : Char} (h : c.toNat < 0x80) :
    String.utf8EncodeChar c = [UInt8.ofNat c.toNat] := by
  have hle : c.val.toNat ≤ 0x7F := Nat.le_of_lt_succ h
  rw [String.utf8EncodeChar]
  exact if_pos hle

theorem octet_lt_iff_of_ascii {c d : Char} (hc : c.toNat < 0x80) (hd : d.toNat < 0x80) :
    UInt8.ofNat c.toNat < UInt8.ofNat d.toNat ↔ c < d := by
  rw [UInt8.lt_iff_toNat_lt, toNat_ofNat_octet (by omega), toNat_ofNat_octet (by omega)]
  exact Iff.rfl

theorem octet_eq_iff_of_ascii {c d : Char} (hc : c.toNat < 0x80) (hd : d.toNat < 0x80) :
    UInt8.ofNat c.toNat = UInt8.ofNat d.toNat ↔ c = d := by
  rw [← UInt8.toNat_inj, toNat_ofNat_octet (by omega), toNat_ofNat_octet (by omega)]
  exact ⟨Char.toNat_inj.mp, congrArg Char.toNat⟩

theorem flatMap_lt_iff_of_ascii {cs ds : List Char} (hcs : ∀ c ∈ cs, c.toNat < 0x80)
    (hds : ∀ d ∈ ds, d.toNat < 0x80) :
    cs.flatMap String.utf8EncodeChar < ds.flatMap String.utf8EncodeChar ↔ cs < ds := by
  induction cs generalizing ds with
  | nil =>
      cases ds with
      | nil => simp
      | cons d ds => simp [utf8EncodeChar_of_ascii (hds d List.mem_cons_self)]
  | cons c cs ih =>
      cases ds with
      | nil => simp
      | cons d ds =>
          obtain ⟨hc, hcs⟩ := List.forall_mem_cons.mp hcs
          obtain ⟨hd, hds⟩ := List.forall_mem_cons.mp hds
          simp only [List.flatMap_cons, utf8EncodeChar_of_ascii hc, utf8EncodeChar_of_ascii hd,
            List.singleton_append, List.cons_lt_cons_iff, octet_lt_iff_of_ascii hc hd,
            octet_eq_iff_of_ascii hc hd, ih hcs hds]

/-- ASCII texts compare octet by octet as they do character by character. -/
theorem encode_lt_iff_of_ascii {s t : String} (hs : ∀ c ∈ s.toList, c.toNat < 0x80)
    (ht : ∀ c ∈ t.toList, c.toNat < 0x80) : encode s < encode t ↔ s < t := by
  rw [encode, encode, flatMap_lt_iff_of_ascii hs ht, String.lt_iff]

/-- A text is known from its form. -/
theorem encode_inj {s t : String} : encode s = encode t ↔ s = t := by
  constructor
  · intro h
    have hread : some s = some t := by rw [← decode?_encode s, h, decode?_encode]
    exact Option.some.inj hread
  · intro h
    rw [h]

end VersionedApi.Utf8
