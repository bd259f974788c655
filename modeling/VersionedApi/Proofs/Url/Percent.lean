import VersionedApi.Url.Percent
import VersionedApi.Url.Scheme
import VersionedApi.Proofs.Text.Pieces
import VersionedApi.Proofs.Text.Utf8

/-!
# Encoded texts

A text is encoded for a part of a URL if it is ASCII and holds no character that the part encodes.
Encoding gives such a text (`encoded_encode`) and leaves it alone (`encode_of_encoded`): no part
encodes the characters that escapes are made of.
-/

namespace VersionedApi.Url.Percent

/-- The characters that escapes are made of. -/
def escapeChars : List Char := "%0123456789ABCDEF".toList

/-- A set without the characters that escapes are made of. -/
def Admits (set : EncodeSet) : Prop := ∀ c ∈ escapeChars, set c = false

instance (set : EncodeSet) : Decidable (Admits set) :=
  List.decidableBAll (fun c => set c = false) escapeChars

/-- A text in which no character has to be encoded. -/
def Encoded (set : EncodeSet) (cs : List Char) : Prop := ∀ c ∈ cs, c.toNat < 0x80 ∧ set c = false

/-! ## Escapes -/

theorem digit_mem_escapeChars : ∀ n < 16, digit n ∈ escapeChars := by decide

theorem toNat_lt_of_mem_escapeChars : ∀ c ∈ escapeChars, c.toNat < 0x80 :=
  Text.forall_mem_of_all (by decide)

theorem mem_escape {b : UInt8} {c : Char} (h : c ∈ escape b) : c ∈ escapeChars := by
  have hb : b.toNat < 256 := b.toNat_lt
  simp only [escape, List.mem_cons, List.not_mem_nil, or_false] at h
  rcases h with rfl | rfl | rfl
  · decide
  · exact digit_mem_escapeChars _ (by omega)
  · exact digit_mem_escapeChars _ (by omega)

theorem mem_encodeChar {set : EncodeSet} {c d : Char} (h : d ∈ encodeChar set c) :
    (d = c ∧ c.toNat < 0x80 ∧ set c = false) ∨ d ∈ escapeChars := by
  rw [encodeChar] at h
  split at h
  next hplain =>
    rw [Bool.and_eq_true, decide_eq_true_eq, Bool.not_eq_true'] at hplain
    exact Or.inl ⟨List.mem_singleton.mp h, hplain⟩
  next =>
    obtain ⟨b, _, hd⟩ := List.mem_flatMap.mp h
    exact Or.inr (mem_escape hd)

/-- An encoded text holds characters of the text, and those of escapes. -/
theorem mem_encode {set : EncodeSet} {cs : List Char} {d : Char} (h : d ∈ encode set cs) :
    (d ∈ cs ∧ d.toNat < 0x80 ∧ set d = false) ∨ d ∈ escapeChars := by
  obtain ⟨c, hc, hd⟩ := List.mem_flatMap.mp h
  rcases mem_encodeChar hd with ⟨rfl, hplain⟩ | hescape
  · exact Or.inl ⟨hc, hplain⟩
  · exact Or.inr hescape

/-! ## Encoding -/

theorem encoded_encode {set : EncodeSet} (h : Admits set) (cs : List Char) :
    Encoded set (encode set cs) := by
  intro d hd
  rcases mem_encode hd with ⟨_, hplain⟩ | hescape
  · exact hplain
  · exact ⟨toNat_lt_of_mem_escapeChars d hescape, h d hescape⟩

theorem encodeChar_of_plain {set : EncodeSet} {c : Char} (h : c.toNat < 0x80 ∧ set c = false) :
    encodeChar set c = [c] := by
  rw [encodeChar, if_pos]
  rw [Bool.and_eq_true, decide_eq_true_eq, Bool.not_eq_true']
  exact h

theorem encode_of_encoded {set : EncodeSet} : ∀ {cs : List Char}, Encoded set cs → encode set cs = cs
  | [], _ => rfl
  | c :: cs, h => by
      rw [encode, List.flatMap_cons, encodeChar_of_plain (h c List.mem_cons_self)]
      exact congrArg (c :: ·) (encode_of_encoded fun d hd => h d (List.mem_cons_of_mem c hd))

theorem encodeChar_ne_nil (set : EncodeSet) (c : Char) : encodeChar set c ≠ [] := by
  rw [encodeChar]
  split
  · exact List.cons_ne_nil _ _
  · intro h
    have hnil : String.utf8EncodeChar c = [] := by
      cases hb : String.utf8EncodeChar c with
      | nil => rfl
      | cons b bs =>
          rw [hb, List.flatMap_cons, escape] at h
          cases h
    have hlength : (String.utf8EncodeChar c).length = 0 := by rw [hnil]; rfl
    rw [String.length_utf8EncodeChar] at hlength
    exact absurd hlength (Nat.ne_of_gt (Char.utf8Size_pos c))

theorem encode_eq_nil_iff {set : EncodeSet} {cs : List Char} : encode set cs = [] ↔ cs = [] := by
  cases cs with
  | nil => exact ⟨fun _ => rfl, fun _ => rfl⟩
  | cons c cs =>
      constructor
      · intro h
        rw [encode, List.flatMap_cons] at h
        exact absurd (List.append_eq_nil_iff.mp h).1 (encodeChar_ne_nil set c)
      · intro h
        cases h

/-! ## What an encoded text leaves out -/

section

variable {set : EncodeSet} {cs : List Char}

theorem Encoded.notMem (h : Encoded set cs) {d : Char} (hd : set d = true) : d ∉ cs := by
  intro hmem
  rw [(h d hmem).2] at hd
  cases hd

/-- A text that is encoded for a part that encodes controls and blanks is visible. -/
theorem Encoded.visible (h : Encoded set cs) (hblank : ∀ n < 33, set (Char.ofNat n) = true) :
    ∀ c ∈ cs, 0x20 < c.toNat := by
  intro c hc
  by_cases hlow : c.toNat < 33
  · have hset := hblank c.toNat hlow
    rw [Char.ofNat_toNat] at hset
    exact absurd hc (h.notMem hset)
  · omega

end

/-! ## Decoding -/

/-- Octets without a percent sign stand for themselves. -/
theorem decode_of_notMem (bytes : Bytes) (h : 0x25 ∉ bytes) : decode bytes = bytes := by
  fun_induction decode bytes with
  | case1 => exact absurd List.mem_cons_self h
  | case2 => exact absurd List.mem_cons_self h
  | case3 x rest _ ih => rw [ih fun hmem => h (List.mem_cons_of_mem x hmem)]
  | case4 => rfl

theorem decode_cons_of_ne {x : UInt8} (h : x ≠ 0x25) (rest : Bytes) :
    decode (x :: rest) = x :: decode rest := by
  rw [decode]
  rintro a b rest' rfl
  exact absurd rfl h

/-- An escape stands for its octet. -/
theorem decode_escape (b : UInt8) (rest : Bytes) :
    decode ((escape b).flatMap String.utf8EncodeChar ++ rest) = b :: decode rest := by
  have hb : b.toNat < 256 := b.toNat_lt
  have hdigit : ∀ n < 16, String.utf8EncodeChar (digit n) = [UInt8.ofNat (digit n).toNat] ∧
      Text.hexValue? (Char.ofNat (UInt8.ofNat (digit n).toNat).toNat) = some n := by decide
  obtain ⟨hhigh, hx⟩ := hdigit (b.toNat / 16) (by omega)
  obtain ⟨hlow, hy⟩ := hdigit (b.toNat % 16) (by omega)
  have hsign : String.utf8EncodeChar '%' = [0x25] := by decide
  have hoctet : octet? (UInt8.ofNat (digit (b.toNat / 16)).toNat)
      (UInt8.ofNat (digit (b.toNat % 16)).toNat) = some b := by
    rw [octet?, hx, hy]
    simp [Nat.div_add_mod]
  simp [escape, hsign, hhigh, hlow, decode, hoctet]

theorem percent_notMem_encode {s : String} (h : ∀ c ∈ s.toList, c.toNat < 0x80 ∧ c ≠ '%') :
    0x25 ∉ Utf8.encode s := by
  intro hmem
  obtain ⟨c, hc, hb⟩ := List.mem_flatMap.mp hmem
  obtain ⟨hascii, hne⟩ := h c hc
  rw [Utf8.utf8EncodeChar_of_ascii hascii, List.mem_singleton] at hb
  have hnat : c.toNat = '%'.toNat := by
    have := congrArg UInt8.toNat hb
    rw [UInt8.toNat_ofNat', Nat.mod_eq_of_lt (by omega)] at this
    exact this.symm
  exact hne (Char.toNat_inj.mp hnat)

/-! ## The parts of a URL -/

theorem admits_fragmentSet : Admits fragmentSet := by decide

theorem admits_pathSet : Admits pathSet := by decide

theorem admits_userinfoSet : Admits userinfoSet := by decide

theorem admits_querySet (kind : SchemeKind) : Admits kind.querySet := by
  cases kind <;> decide

end VersionedApi.Url.Percent
