import VersionedApi.Url.Form
import VersionedApi.Proofs.Text.Pieces
import VersionedApi.Proofs.Text.Utf8
import VersionedApi.Proofs.Url.Reading

/-!
# Forms read back

The form of a list of pairs is read back as the pairs, whatever their names and values hold
(`decode_encode`).  Each octet is read back from what it is written as, and nothing an octet is
written as separates names, values or pairs.  So pairs that are added to a query are read after
those it had (`pairs_addPairs`), and they leave a settled URL settled: the text of the URL is cut
where it was before.
-/

namespace VersionedApi.Url.Form

open VersionedApi.Text

/-! ## Octets -/

/-- A character of a form as the octets it is read as. -/
def octetsOf (c : Char) : Bytes := String.utf8EncodeChar (if c = '+' then ' ' else c)

/-- What an octet is written as is read as the octet, whatever comes after it. -/
theorem decode_encodeOctet (b : UInt8) (rest : Bytes) :
    Percent.decode ((encodeOctet b).flatMap octetsOf ++ rest) = b :: Percent.decode rest := by
  have hplain : ∀ n < 256, isPlain (UInt8.ofNat n) = true → UInt8.ofNat n ≠ 0x25 ∧
      octetsOf (Char.ofNat (UInt8.ofNat n).toNat) = [UInt8.ofNat n] := by decide +kernel
  have hescape : ∀ c ∈ Percent.escapeChars, octetsOf c = String.utf8EncodeChar c := by
    intro c hc
    have hplus : ∀ d ∈ Percent.escapeChars, d ≠ '+' := forall_mem_of_all (by decide)
    rw [octetsOf, if_neg (hplus c hc)]
  rw [encodeOctet]
  split
  next h =>
    have hb := hplain b.toNat b.toNat_lt
    rw [UInt8.ofNat_toNat] at hb
    obtain ⟨hne, hread⟩ := hb h
    simp [hread, Percent.decode_cons_of_ne hne]
  next =>
    split
    next h =>
      subst h
      have hblank : octetsOf '+' = [0x20] := by decide
      simp [hblank, Percent.decode_cons_of_ne]
    next =>
      have hread : (Percent.escape b).flatMap octetsOf =
          (Percent.escape b).flatMap String.utf8EncodeChar :=
        congrArg List.flatten
          (List.map_congr_left fun c hc => hescape c (Percent.mem_escape hc))
      rw [hread, Percent.decode_escape]

theorem decode_flatMap (bytes : Bytes) :
    Percent.decode ((bytes.flatMap encodeOctet).flatMap octetsOf) = bytes := by
  induction bytes with
  | nil => rfl
  | cons b bytes ih =>
      rw [List.flatMap_cons, List.flatMap_append, decode_encodeOctet, ih]

/-! ## Names and values -/

theorem decodeText_encodeText (s : String) : decodeText (encodeText s) = s := by
  have hoctets :
      Utf8.encode (String.ofList ((encodeText s).map fun c => if c = '+' then ' ' else c)) =
        (encodeText s).flatMap octetsOf := by
    rw [Utf8.encode, String.toList_ofList, List.flatMap_map]
    rfl
  rw [decodeText, hoctets, encodeText, decode_flatMap, Utf8.lossy_encode]

/-- Whether a character is none that separates names, values and pairs, and none that a query would
encode. -/
def isInert (c : Char) : Bool :=
  c != '&' && c != '=' && decide (c.toNat < 0x80) && !Percent.specialQuerySet c

theorem isInert_of_mem_encodeOctet {b : UInt8} {c : Char} (h : c ∈ encodeOctet b) :
    isInert c = true := by
  have hplain : ∀ n < 256, isPlain (UInt8.ofNat n) = true →
      isInert (Char.ofNat (UInt8.ofNat n).toNat) = true := by decide +kernel
  have hescape : ∀ c ∈ Percent.escapeChars, isInert c = true := forall_mem_of_all (by decide)
  rw [encodeOctet] at h
  split at h
  next hb =>
    rw [List.mem_singleton.mp h]
    have hinert := hplain b.toNat b.toNat_lt
    rw [UInt8.ofNat_toNat] at hinert
    exact hinert hb
  next =>
    split at h
    next =>
      rw [List.mem_singleton.mp h]
      decide
    next => exact hescape c (Percent.mem_escape h)

/-- A name or a value is written without the signs that separate names, values and pairs, and with
nothing that a query would encode. -/
theorem mem_encodeText {s : String} {c : Char} (h : c ∈ encodeText s) :
    c ≠ '&' ∧ c ≠ '=' ∧ c.toNat < 0x80 ∧ Percent.specialQuerySet c = false := by
  obtain ⟨b, _, hc⟩ := List.mem_flatMap.mp h
  simpa [isInert, and_assoc] using isInert_of_mem_encodeOctet hc

/-! ## Pairs -/

theorem decodePair_encodePair (pair : String × String) : decodePair (encodePair pair) = pair := by
  have hname : '=' ∉ encodeText pair.1 := fun h => (mem_encodeText h).2.1 rfl
  rw [decodePair, encodePair, cut?_append hname]
  simp [decodeText_encodeText]

theorem mem_encodePair {pair : String × String} {c : Char} (h : c ∈ encodePair pair) :
    c ≠ '&' ∧ c.toNat < 0x80 ∧ Percent.specialQuerySet c = false := by
  rw [encodePair, List.mem_append, List.mem_cons] at h
  rcases h with h | rfl | h
  · obtain ⟨hand, _, hplain⟩ := mem_encodeText h
    exact ⟨hand, hplain⟩
  · decide
  · obtain ⟨hand, _, hplain⟩ := mem_encodeText h
    exact ⟨hand, hplain⟩

theorem decode_nil : decode [] = [] := rfl

theorem decode_append (front rest : List Char) :
    decode (front ++ '&' :: rest) = decode front ++ decode rest := by
  rw [decode, splitOn, splitBy_append_cons (by decide), List.filter_append, List.map_append]
  rfl

/-- A form is read back as the pairs it was made of. -/
theorem decode_encode (pairs : List (String × String)) : decode (encode pairs) = pairs := by
  cases pairs with
  | nil => rfl
  | cons pair rest =>
      have hsplit : splitOn '&' (encode (pair :: rest)) = (pair :: rest).map encodePair :=
        splitOn_intercalate '&' _ (List.cons_ne_nil _ _)
          (List.forall_mem_map.mpr fun p _ hmem => (mem_encodePair hmem).1 rfl)
      have hfilled : ∀ piece ∈ (pair :: rest).map encodePair, (!piece.isEmpty) = true :=
        List.forall_mem_map.mpr fun p _ => by simp [encodePair]
      rw [decode, hsplit, List.filter_eq_self.mpr hfilled, List.map_map]
      exact (List.map_congr_left fun p _ => decodePair_encodePair p).trans (List.map_id _)

/-- A form holds nothing that a query would encode. -/
theorem encoded_encode (pairs : List (String × String)) :
    Percent.Encoded Percent.specialQuerySet (encode pairs) := by
  intro c hc
  rcases mem_intercalate hc with rfl | ⟨piece, hpiece, hc⟩
  · decide
  · obtain ⟨pair, _, rfl⟩ := List.mem_map.mp hpiece
    exact (mem_encodePair hc).2

end VersionedApi.Url.Form

namespace VersionedApi.Url

variable {u : Url} {added : List (String × String)}

/-- The pairs of the query of a URL, read as a form. -/
def pairs (u : Url) : List (String × String) :=
  match u.query with
  | some q => Form.decode q.toList
  | none => []

/-- Adding pairs changes nothing but the query. -/
theorem addPairs_eq (u : Url) (added : List (String × String)) :
    u.addPairs added = { u with query := (u.addPairs added).query } := by
  rw [addPairs]
  split <;> rfl

/-- Added pairs are read behind those of the query, be that absent, empty or cut off behind an
ampersand. -/
theorem pairs_addPairs (u : Url) (added : List (String × String)) :
    (u.addPairs added).pairs = u.pairs ++ added := by
  cases added with
  | nil => simp [addPairs]
  | cons pair rest =>
      rw [addPairs, if_neg (by simp), pairs, pairs]
      cases hq : u.query with
      | none => simp [Form.decode_encode]
      | some q =>
          by_cases hempty : q = ""
          · simp [hempty, Form.decode_encode, Form.decode_nil]
          · simp [hempty, Form.decode_append, Form.decode_encode]

theorem mem_query_addPairs {q : String} (h : (u.addPairs added).query = some q) {c : Char}
    (hc : c ∈ q.toList) :
    (∃ before, u.query = some before ∧ c ∈ before.toList) ∨ c = '&' ∨ c ∈ Form.encode added := by
  rw [addPairs] at h
  split at h
  next => exact Or.inl ⟨q, h, hc⟩
  next =>
    cases hquery : u.query with
    | none =>
        simp only [hquery, Option.some.injEq] at h
        subst h
        exact Or.inr (Or.inr (by simpa using hc))
    | some before =>
        simp only [hquery, Option.some.injEq] at h
        subst h
        split at hc
        next => exact Or.inr (Or.inr (by simpa using hc))
        next =>
          simp only [String.toList_append, String.toList_ofList, List.mem_append] at hc
          rcases hc with (hc | hc) | hc
          · exact Or.inl ⟨before, rfl, hc⟩
          · exact Or.inr (Or.inl (by simpa using hc))
          · exact Or.inr (Or.inr hc)

theorem Settled.addPairs (h : u.Settled) (added : List (String × String)) :
    (u.addPairs added).Settled := by
  rw [addPairs_eq]
  refine ⟨h.special, h.authority, h.path, ?_, h.fragment⟩
  intro q hq c hc
  rcases mem_query_addPairs hq hc with ⟨before, hbefore, hc⟩ | rfl | hc
  · exact h.query before hbefore c hc
  · decide
  · exact Form.encoded_encode added c hc

end VersionedApi.Url
