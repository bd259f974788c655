import VersionedApi.Url.Address
import VersionedApi.Proofs.Text.Pieces
import VersionedApi.Proofs.Text.Numeral

/-!
# IPv4 addresses read back

The text of an address ends in a number and is read as the address (`parse?_render`).
-/

namespace VersionedApi.Url.Ipv4

open VersionedApi.Text

/-- The number of an octet is read in decimal: it begins with no zero. -/
theorem number?_decimal : ∀ n < 256, number? (decimal n) = some n := by decide +kernel

theorem octets_lt (address : UInt32) : ∀ o ∈ octets address, o < 256 := by
  have hsize : address.toNat < 4294967296 := address.toNat_lt
  intro o ho
  simp only [octets, List.mem_cons, List.not_mem_nil, or_false] at ho
  omega

theorem mem_render {address : UInt32} {c : Char} (h : c ∈ render address) :
    c = '.' ∨ isDigit c = true := by
  rcases mem_intercalate h with h | ⟨piece, hpiece, hc⟩
  · exact Or.inl h
  · obtain ⟨o, _, rfl⟩ := List.mem_map.mp hpiece
    exact Or.inr (isDigit_of_mem_decimal hc)

theorem point_notMem_decimal (n : Nat) : '.' ∉ decimal n := by
  intro h
  have hdigit := isDigit_of_mem_decimal h
  exact absurd hdigit (by decide)

theorem splitOn_render (address : UInt32) :
    splitOn '.' (render address) = (octets address).map decimal := by
  refine splitOn_intercalate '.' _ (List.cons_ne_nil _ _) fun piece hpiece => ?_
  obtain ⟨o, _, rfl⟩ := List.mem_map.mp hpiece
  exact point_notMem_decimal o

theorem render_ne_nil (address : UInt32) : render address ≠ [] := by
  intro h
  have hsplit := splitOn_render address
  rw [h] at hsplit
  have hlength : 1 = 4 := congrArg List.length hsplit
  exact absurd hlength (by decide)

/-- No part of the text of an address is empty, so the last one counts. -/
theorem parts_render (address : UInt32) : parts (render address) = (octets address).map decimal := by
  have hlast : decimal (address.toNat % 256) ≠ [] := decimal_ne_nil _
  rw [parts, splitOn_render, octets]
  simp only [List.map_cons, List.map_nil, List.reverse_cons, List.reverse_nil, List.nil_append,
    List.cons_append]
  cases hd : decimal (address.toNat % 256) with
  | nil => exact absurd hd hlast
  | cons d ds => rfl

theorem mapM_number? : ∀ {os : List Nat}, (∀ o ∈ os, o < 256) →
    (os.map decimal).mapM number? = some os
  | [], _ => rfl
  | o :: os, h => by
      rw [List.map_cons, List.mapM_cons, number?_decimal o (h o List.mem_cons_self),
        mapM_number? fun p hp => h p (List.mem_cons_of_mem o hp)]
      rfl

theorem combine?_octets (address : UInt32) :
    combine? (octets address).dropLast (address.toNat % 256) = some address := by
  have hsize : address.toNat < 4294967296 := address.toNat_lt
  have hvalue : (((address.toNat >>> 24 * 256 + (address.toNat >>> 16) % 256) * 256 +
      (address.toNat >>> 8) % 256) <<< 8) + address.toNat % 256 = address.toNat := by
    omega
  rw [octets, combine?, if_neg]
  · simp only [List.dropLast_cons_cons, List.dropLast_singleton, List.length_cons, List.length_nil,
      List.foldl_cons, List.foldl_nil, Nat.zero_mul, Nat.zero_add, Nat.reduceAdd, Nat.reduceSub,
      Nat.mul_one]
    rw [hvalue, UInt32.ofNat_toNat]
  · simp only [List.dropLast_cons_cons, List.dropLast_singleton, List.length_cons, List.length_nil,
      List.any_cons, List.any_nil, Bool.or_false, Bool.or_eq_true, decide_eq_true_eq]
    omega

/-- The text of an address is read as the address. -/
theorem parse?_render (address : UInt32) : parse? (render address) = some address := by
  rw [parse?, parts_render, mapM_number? (octets_lt address)]
  exact combine?_octets address

theorem endsInNumber_render (address : UInt32) : endsInNumber (render address) = true := by
  have hlast : ((octets address).map decimal).getLast? = some (decimal (address.toNat % 256)) := rfl
  rw [endsInNumber, parts_render, hlast]
  dsimp only
  rw [number?_decimal _ (Nat.mod_lt _ (by decide)), Option.isSome_some, Bool.or_true]

end VersionedApi.Url.Ipv4
