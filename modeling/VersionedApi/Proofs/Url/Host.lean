import VersionedApi.Url.Host
import VersionedApi.Proofs.Text.Utf8
import VersionedApi.Proofs.Url.Domain
import VersionedApi.Proofs.Url.Ipv4
import VersionedApi.Proofs.Url.Ipv6
import VersionedApi.Proofs.Url.Percent

/-!
# Hosts read back

A host of a special scheme is settled if its text is read as the host again.  Every host that was
read from a text is settled (`settled_parseSpecial`), and a settled host is read back from its text
(`parseSpecial_render`).
-/

namespace VersionedApi.Url.Host

open VersionedApi.Text

/-- A host that its text stands for under a special scheme. -/
def Settled : Host → Prop
  | .name text => Domain.toAscii? text.toList = some text.toList ∧ text.toList ≠ [] ∧
      Ipv4.endsInNumber text.toList = false
  | .ipv4 _ => True
  | .ipv6 pieces => pieces.length = 8

/-! ## Names -/

/-- An ASCII text without escapes is taken as it stands. -/
theorem domainName?_of_plain {cs : List Char} (h : ∀ c ∈ cs, c.toNat < 0x80 ∧ c ≠ '%') :
    domainName? cs = Domain.toAscii? cs := by
  have hescapes : 0x25 ∉ Utf8.encode (String.ofList cs) := by
    refine Percent.percent_notMem_encode fun c hc => ?_
    rw [String.toList_ofList] at hc
    exact h c hc
  rw [domainName?, Percent.decode_of_notMem _ hescapes, Utf8.decode?_encode, Option.bind_some,
    String.toList_ofList]

/-- An ASCII form is taken as it stands. -/
theorem domainName?_toAscii? {name ascii : List Char} (h : Domain.toAscii? name = some ascii) :
    domainName? ascii = some ascii := by
  rw [domainName?_of_plain, Domain.toAscii?_toAscii? h]
  intro c hc
  refine ⟨(Domain.plain_toAscii? h c hc).1, ?_⟩
  rintro rfl
  exact absurd (Domain.not_forbidden_toAscii? h '%' hc) (by decide)

/-- The text of an IPv4 address is a domain name. -/
theorem toAscii?_ipv4 (address : UInt32) :
    Domain.toAscii? (Ipv4.render address) = some (Ipv4.render address) := by
  have hdigits : ∀ n < 58, 48 ≤ n → (Char.ofNat n).toNat < 0x80 ∧ NoCapital (Char.ofNat n) ∧
      Domain.forbidden (Char.ofNat n) = false ∧ Char.ofNat n ≠ 'x' := by
    decide
  have hdigit (c : Char) (hc : isDigit c = true) :
      c.toNat < 0x80 ∧ NoCapital c ∧ Domain.forbidden c = false ∧ c ≠ 'x' := by
    rw [isDigit, Bool.and_eq_true, decide_eq_true_eq, decide_eq_true_eq] at hc
    obtain ⟨hlo, hhi⟩ : 48 ≤ c.toNat ∧ c.toNat ≤ 57 := hc
    have h := hdigits c.toNat (by omega) hlo
    rw [Char.ofNat_toNat] at h
    exact h
  have hpoint : '.'.toNat < 0x80 ∧ NoCapital '.' ∧ Domain.forbidden '.' = false ∧ '.' ≠ 'x' := by
    decide
  have hall (c : Char) (hc : c ∈ Ipv4.render address) :
      c.toNat < 0x80 ∧ NoCapital c ∧ Domain.forbidden c = false ∧ c ≠ 'x' := by
    rcases Ipv4.mem_render hc with rfl | hc
    · exact hpoint
    · exact hdigit c hc
  refine Domain.toAscii?_of_plain (fun c hc => ⟨(hall c hc).1, (hall c hc).2.1⟩) ?_
    fun c hc => (hall c hc).2.2.1
  intro label hlabel hmark
  have hx : 'x' ∈ label.take 4 := by
    rw [hmark]
    decide
  have hmem := (mem_splitBy hlabel 'x' ((List.take_sublist 4 label).subset hx)).1
  exact (hall 'x' hmem).2.2.2 rfl

/-! ## Reading -/

theorem settled_parseBracketed {cs : List Char} {host : Host} (h : parseBracketed cs = .ok host) :
    host.Settled := by
  rw [parseBracketed] at h
  split at h
  next => cases h
  next =>
    split at h
    next pieces hpieces =>
      cases h
      exact Ipv6.length_parse? hpieces
    next => cases h

/-- Every host that is read is settled. -/
theorem settled_parseSpecial {cs : List Char} {host : Host} (h : parseSpecial cs = .ok host) :
    host.Settled := by
  rw [parseSpecial] at h
  split at h
  next => exact settled_parseBracketed h
  next =>
    split at h
    next => cases h
    next => cases h
    next domain hne hdomain =>
      split at h
      next =>
        split at h
        next => cases h; trivial
        next => cases h
      next hnumber =>
        cases h
        obtain ⟨decoded, _, hascii⟩ := Option.bind_eq_some_iff.mp hdomain
        rw [Settled, String.toList_ofList]
        exact ⟨Domain.toAscii?_toAscii? hascii, hne, eq_false_of_ne_true hnumber⟩

/-! ## Reading back -/

/-- The text of a name is that of no address. -/
theorem parseSpecial_name {text : String} (h : Settled (.name text)) :
    parseSpecial text.toList = .ok (.name text) := by
  obtain ⟨hascii, hne, hnumber⟩ := h
  have hallowed := Domain.not_forbidden_toAscii? hascii
  have hdomain := domainName?_toAscii? hascii
  have hback : String.ofList text.toList = text := String.ofList_toList
  generalize text.toList = cs at *
  cases cs with
  | nil => exact absurd rfl hne
  | cons c cs =>
      have hhead : (c :: cs).head? ≠ some '[' := by
        intro hhead
        rw [Option.some.inj hhead] at hallowed
        exact absurd (hallowed '[' List.mem_cons_self) (by decide)
      rw [parseSpecial, if_neg hhead, hdomain]
      dsimp only
      rw [hnumber, hback]
      rfl

theorem parseSpecial_ipv4 (address : UInt32) :
    parseSpecial (Ipv4.render address) = .ok (.ipv4 address) := by
  have hdomain := domainName?_toAscii? (toAscii?_ipv4 address)
  have hnumber := Ipv4.endsInNumber_render address
  have hparse := Ipv4.parse?_render address
  have hchars : ∀ c ∈ Ipv4.render address, c = '.' ∨ isDigit c = true :=
    fun c hc => Ipv4.mem_render hc
  cases hcs : Ipv4.render address with
  | nil => exact absurd hcs (Ipv4.render_ne_nil address)
  | cons c cs =>
      rw [hcs] at hdomain hnumber hparse hchars
      have hhead : (c :: cs).head? ≠ some '[' := by
        intro hhead
        rw [Option.some.inj hhead] at hchars
        rcases hchars '[' List.mem_cons_self with h | h
        · exact absurd h (by decide)
        · exact absurd h (by decide)
      rw [parseSpecial, if_neg hhead, hdomain]
      dsimp only
      rw [hnumber, hparse]
      rfl

theorem parseBracketed_ipv6 {pieces : List UInt16} (h : pieces.length = 8) :
    parseBracketed ('[' :: Ipv6.render pieces ++ [']']) = .ok (.ipv6 pieces) := by
  have hlast : ('[' :: Ipv6.render pieces ++ [']']).getLast? = some ']' :=
    List.getLast?_concat
  have hinside : (('[' :: Ipv6.render pieces ++ [']']).drop 1).dropLast = Ipv6.render pieces := by
    rw [List.cons_append, List.drop_one, List.tail_cons, List.dropLast_concat]
  rw [parseBracketed, if_neg (fun hne => hne hlast), hinside, Ipv6.parse?_render h]

/-- A settled host is read back from its text. -/
theorem parseSpecial_render {host : Host} (h : host.Settled) :
    parseSpecial host.render.toList = .ok host := by
  cases host with
  | name text => exact parseSpecial_name h
  | ipv4 address =>
      rw [render, String.toList_ofList]
      exact parseSpecial_ipv4 address
  | ipv6 pieces =>
      have hhead : ('[' :: Ipv6.render pieces ++ [']']).head? = some '[' := rfl
      rw [render, String.toList_ofList, parseSpecial, if_pos hhead]
      exact parseBracketed_ipv6 h

/-! ## The characters of a host -/

/-- A character that is printable and ends no part of an authority but by a colon. -/
def Inner (c : Char) : Prop := 0x20 < c.toNat ∧ c ∉ "#/?@\\".toList

instance (c : Char) : Decidable (Inner c) :=
  inferInstanceAs (Decidable (0x20 < c.toNat ∧ c ∉ "#/?@\\".toList))

theorem inner_of_not_forbidden {c : Char} (h : Domain.forbidden c = false) : Inner c := by
  have hends : ∀ d ∈ "#/?@\\".toList, Domain.forbidden d = true :=
    List.all_eq_true.mp (by decide)
  refine ⟨?_, fun hmem => ?_⟩
  · rw [Domain.forbidden, Bool.or_eq_false_iff, decide_eq_false_iff_not] at h
    omega
  · exact absurd (hends c hmem) (by rw [h]; exact Bool.false_ne_true)

theorem inner_of_isHex {c : Char} (h : Ipv6.isHex c = true) : Inner c := by
  have hends : ∀ d ∈ "#/?@\\".toList, Ipv6.isHex d = false :=
    forall_mem_of_all (by decide)
  refine ⟨?_, fun hmem => ?_⟩
  · have hblank : ∀ n < 33, Ipv6.isHex (Char.ofNat n) = false := by decide
    by_cases hc : c.toNat < 33
    · have hnone := hblank c.toNat hc
      rw [Char.ofNat_toNat, h] at hnone
      cases hnone
    · omega
  · exact absurd h (by rw [hends c hmem]; exact Bool.false_ne_true)

/-- A host without brackets holds no character that no host may hold. -/
theorem not_forbidden_render {host : Host} (h : host.Settled) (hplain : ∀ ps, host ≠ .ipv6 ps) :
    ∀ c ∈ host.render.toList, Domain.forbidden c = false := by
  cases host with
  | name text => exact Domain.not_forbidden_toAscii? h.1
  | ipv4 address =>
      rw [render, String.toList_ofList]
      exact Domain.not_forbidden_toAscii? (toAscii?_ipv4 address)
  | ipv6 pieces => exact absurd rfl (hplain pieces)

theorem inner_render {host : Host} (h : host.Settled) : ∀ c ∈ host.render.toList, Inner c := by
  intro c hc
  by_cases hplain : ∀ ps, host ≠ .ipv6 ps
  · exact inner_of_not_forbidden (not_forbidden_render h hplain c hc)
  · rw [Classical.not_forall] at hplain
    obtain ⟨pieces, hpieces⟩ := hplain
    rw [Classical.not_not.mp hpieces, render, String.toList_ofList] at hc
    rcases List.mem_append.mp hc with hc | hc
    · rcases List.mem_cons.mp hc with rfl | hc
      · decide
      · rcases Ipv6.mem_render hc with rfl | hc
        · decide
        · exact inner_of_isHex hc
    · rw [List.mem_singleton.mp hc]
      decide

theorem toList_render_ne_nil {host : Host} (h : host.Settled) : host.render.toList ≠ [] := by
  cases host with
  | name text => exact h.2.1
  | ipv4 address =>
      rw [render, String.toList_ofList]
      exact Ipv4.render_ne_nil address
  | ipv6 pieces =>
      rw [render, String.toList_ofList]
      exact List.cons_ne_nil _ _

end VersionedApi.Url.Host
