import VersionedApi.Url.Address
import VersionedApi.Proofs.Text.Pieces
import VersionedApi.Proofs.Text.Numeral

/-!
# IPv6 addresses read back

The text of eight pieces is read as these pieces (`parse?_render`), whichever run of zeros it
leaves out; and eight pieces are what a text is read as (`length_parse?`).  A reader is followed
through pieces that are joined by colons (`read?_joined`), and through those before a gap
(`read?_gap`).
-/

namespace VersionedApi.Url.Ipv6

open VersionedApi.Text

/-! ## Readers -/

theorem taken_push (r : Reader) (p : Nat) : (r.push p).taken = r.taken + 1 := by
  obtain ⟨before, after⟩ := r
  cases after with
  | none =>
      rw [Reader.push, Reader.taken, Reader.taken, List.length_append]
      rfl
  | some ps =>
      rw [Reader.push, Reader.taken, Reader.taken]
      dsimp only
      rw [List.length_append]
      rfl

theorem length_finish? {r : Reader} {ps : List UInt16} (hr : r.taken ≤ 8)
    (h : r.finish? = some ps) : ps.length = 8 := by
  obtain ⟨before, after⟩ := r
  cases after with
  | none =>
      rw [Reader.finish?] at h
      dsimp only at h
      split at h
      next hlength =>
        cases h
        rw [List.length_map, hlength]
      next => cases h
  | some qs =>
      have htaken : before.length + (qs.length + 1) ≤ 8 := hr
      cases h
      dsimp only
      rw [List.length_map, List.length_append, List.length_append, List.length_replicate]
      omega

/-- The reader after more pieces. -/
def Reader.pushAll (r : Reader) (ps : List UInt16) : Reader :=
  ps.foldl (fun r p => r.push p.toNat) r

theorem pushAll_cons (r : Reader) (p : UInt16) (ps : List UInt16) :
    r.pushAll (p :: ps) = (r.push p.toNat).pushAll ps := rfl

theorem pushAll_before : ∀ (ps : List UInt16) (before : List Nat),
    Reader.pushAll ⟨before, none⟩ ps = ⟨before ++ ps.map UInt16.toNat, none⟩
  | [], before => by
      rw [List.map_nil, List.append_nil]
      rfl
  | p :: ps, before => by
      rw [pushAll_cons, Reader.push]
      dsimp only
      rw [pushAll_before ps, List.append_assoc]
      rfl

theorem pushAll_after : ∀ (ps : List UInt16) (before after : List Nat),
    Reader.pushAll ⟨before, some after⟩ ps = ⟨before, some (after ++ ps.map UInt16.toNat)⟩
  | [], before, after => by
      rw [List.map_nil, List.append_nil]
      rfl
  | p :: ps, before, after => by
      rw [pushAll_cons, Reader.push]
      dsimp only
      rw [pushAll_after ps, List.append_assoc]
      rfl

theorem map_ofNat_toNat (ps : List UInt16) : (ps.map UInt16.toNat).map UInt16.ofNat = ps := by
  rw [List.map_map]
  exact (List.map_congr_left fun p _ => UInt16.ofNat_toNat).trans (List.map_id ps)

/-! ## One piece -/

theorem isHex_digitChar : ∀ d < 16, isHex (Nat.digitChar d) = true := by decide

theorem isHex_of_mem_hexadecimal {n : Nat} {c : Char} (h : c ∈ hexadecimal n) : isHex c = true := by
  obtain ⟨d, hd, rfl⟩ := mem_hexadecimal h
  exact isHex_digitChar d hd

theorem colon_notMem_hexadecimal (n : Nat) : ':' ∉ hexadecimal n := by
  intro h
  exact absurd (isHex_of_mem_hexadecimal h) (by decide)

theorem valueIn_hexadecimal (n : Nat) : Ipv4.valueIn 16 (hexadecimal n) = n :=
  foldl_toDigits (by decide) (fun d => (hexValue? d).getD 0) (by decide) n

/-- The digits of a piece, of which there are four at most, end where no digit follows. -/
theorem takeWhile_piece (p : UInt16) {rest : List Char} (h : ∀ c ∈ rest.head?, isHex c = false) :
    ((hexadecimal p.toNat ++ rest).take 4).takeWhile isHex = hexadecimal p.toNat := by
  have hlength : (hexadecimal p.toNat).length ≤ 4 := length_hexadecimal_le p.toNat_lt
  rw [List.take_append, List.take_of_length_le hlength,
    List.takeWhile_append_of_pos fun c hc => isHex_of_mem_hexadecimal hc]
  cases rest with
  | nil => rw [List.take_nil, List.takeWhile_nil, List.append_nil]
  | cons c rest =>
      cases 4 - (hexadecimal p.toNat).length with
      | zero => rw [List.take_zero, List.takeWhile_nil, List.append_nil]
      | succ n =>
          rw [List.take_succ_cons, List.takeWhile_cons_of_neg (by rw [h c rfl]; decide),
            List.append_nil]

/-- What a round of the reader makes of a piece: the digits are taken, and what follows decides. -/
theorem read?_piece (count : Nat) {r : Reader} (hr : r.taken ≠ 8) (p : UInt16) {rest : List Char}
    (h : ∀ c ∈ rest.head?, c = ':') :
    (rest = [] →
      read? (count + 1) r (hexadecimal p.toNat ++ rest) = (r.push p.toNat).finish?) ∧
    ∀ tail, rest = ':' :: tail → tail ≠ [] →
      read? (count + 1) r (hexadecimal p.toNat ++ rest) = read? count (r.push p.toNat) tail := by
  have hhex : ∀ c ∈ rest.head?, isHex c = false := by
    intro c hc
    rw [h c hc]
    decide
  have hne := hexadecimal_ne_nil p.toNat
  have hcolon := colon_notMem_hexadecimal p.toNat
  have htake := takeWhile_piece p hhex
  have hvalue := valueIn_hexadecimal p.toNat
  generalize hexadecimal p.toNat = ds at hne hcolon htake hvalue ⊢
  cases ds with
  | nil => exact absurd rfl hne
  | cons d ds =>
      have hd : d ≠ ':' := fun e => hcolon (e ▸ List.mem_cons_self)
      rw [List.cons_append] at htake ⊢
      rw [read?, if_neg hr, if_neg hd]
      dsimp only
      rw [htake, hvalue, ← List.cons_append, List.drop_left]
      constructor
      · rintro rfl
        rfl
      · rintro tail rfl htail
        cases tail with
        | nil => exact absurd rfl htail
        | cons c tail => rfl

theorem read?_last (count : Nat) {r : Reader} (hr : r.taken ≠ 8) (p : UInt16) :
    read? (count + 1) r (hexadecimal p.toNat) = (r.push p.toNat).finish? := by
  have hnil : ∀ c ∈ ([] : List Char).head?, c = ':' := fun _ hc => nomatch hc
  have h := (read?_piece count hr p hnil).1 rfl
  rw [List.append_nil] at h
  exact h

theorem read?_next (count : Nat) {r : Reader} (hr : r.taken ≠ 8) (p : UInt16) {tail : List Char}
    (htail : tail ≠ []) :
    read? (count + 1) r (hexadecimal p.toNat ++ ':' :: tail) =
      read? count (r.push p.toNat) tail := by
  have hcolon : ∀ c ∈ (':' :: tail).head?, c = ':' := by
    intro c hc
    exact (Option.some.inj hc).symm
  exact (read?_piece count hr p hcolon).2 tail rfl htail

/-! ## Joined pieces -/

theorem joined_singleton (p : UInt16) : joined [p] = hexadecimal p.toNat := by
  rw [joined, List.map_singleton, List.intercalate_singleton]

theorem joined_cons_cons (p q : UInt16) (ps : List UInt16) :
    joined (p :: q :: ps) = hexadecimal p.toNat ++ ':' :: joined (q :: ps) := by
  rw [joined, List.map_cons, List.map_cons, List.intercalate_cons_cons, List.append_assoc]
  rfl

/-- Joined pieces begin with a digit. -/
theorem joined_cons (p : UInt16) : ∀ ps : List UInt16,
    ∃ d ds, joined (p :: ps) = d :: ds ∧ isHex d = true := by
  obtain ⟨d, ds, hd⟩ := List.exists_cons_of_ne_nil (hexadecimal_ne_nil p.toNat)
  have hhex : isHex d = true := isHex_of_mem_hexadecimal (hd ▸ List.mem_cons_self)
  intro ps
  cases ps with
  | nil => exact ⟨d, ds, by rw [joined_singleton, hd], hhex⟩
  | cons q ps => exact ⟨d, _, by rw [joined_cons_cons, hd, List.cons_append], hhex⟩

theorem joined_ne_nil (p : UInt16) (ps : List UInt16) : joined (p :: ps) ≠ [] := by
  obtain ⟨d, ds, h, _⟩ := joined_cons p ps
  rw [h]
  exact List.cons_ne_nil d ds

/-- Pieces at the end of a text are read one after the other. -/
theorem read?_joined : ∀ (p : UInt16) (ps : List UInt16) (count : Nat) (r : Reader),
    r.taken + ps.length < 8 → (joined (p :: ps)).length ≤ count →
      read? count r (joined (p :: ps)) = (r.pushAll (p :: ps)).finish?
  | p, ps, 0, _, _, hcount =>
      absurd (List.eq_nil_of_length_eq_zero (Nat.le_zero.mp hcount)) (joined_ne_nil p ps)
  | p, [], count + 1, r, htaken, _ => by
      rw [joined_singleton, read?_last count (by rw [List.length_nil] at htaken; omega)]
      rfl
  | p, q :: ps, count + 1, r, htaken, hcount => by
      rw [List.length_cons] at htaken
      rw [joined_cons_cons, List.length_append, List.length_cons] at hcount
      rw [joined_cons_cons, read?_next count (by omega) p (joined_ne_nil q ps),
        read?_joined q ps count _ (by rw [taken_push]; omega) (by omega), pushAll_cons r]

/-- Pieces before a gap are read one after the other, and the gap after them. -/
theorem read?_gap : ∀ (p : UInt16) (ps : List UInt16) (count : Nat) (r : Reader) (rest : List Char),
    r.after = none → r.taken + ps.length < 7 →
    (joined (p :: ps) ++ ':' :: ':' :: rest).length ≤ count →
      ∃ count', rest.length ≤ count' ∧
        read? count r (joined (p :: ps) ++ ':' :: ':' :: rest) =
          read? count' { r.pushAll (p :: ps) with after := some [] } rest
  | p, ps, 0, _, _, _, _, hcount => by
      rw [List.length_append, List.length_cons] at hcount
      omega
  | p, [], 1, _, _, _, _, hcount => by
      rw [List.length_append, List.length_cons, List.length_cons] at hcount
      omega
  | p, [], count + 2, r, rest, hafter, htaken, hcount => by
      rw [List.length_append, List.length_cons, List.length_cons] at hcount
      rw [List.length_nil] at htaken
      have hpush : (r.push p.toNat).after = none := by
        rw [Reader.push, hafter]
      refine ⟨count, by omega, ?_⟩
      rw [joined_singleton, read?_next (count + 1) (by omega) p (List.cons_ne_nil _ _), read?,
        if_neg (by rw [taken_push]; omega), if_pos rfl, hpush]
      rfl
  | p, q :: ps, count + 1, r, rest, hafter, htaken, hcount => by
      rw [List.length_cons] at htaken
      rw [joined_cons_cons, List.append_assoc, List.length_append, List.cons_append,
        List.length_cons] at hcount
      have hpush : (r.push p.toNat).after = none := by
        rw [Reader.push, hafter]
      obtain ⟨count', hcount', hread⟩ := read?_gap q ps count (r.push p.toNat) rest hpush
        (by rw [taken_push]; omega) (by omega)
      refine ⟨count', hcount', ?_⟩
      rw [joined_cons_cons, List.append_assoc, List.cons_append, read?_next count (by omega) p
        (List.append_ne_nil_of_left_ne_nil (joined_ne_nil q ps) _), hread, pushAll_cons r]

/-! ## Runs of zeros -/

/-- The longest run is no longer than the zeros where it begins. -/
theorem longestRun_le (ps : List UInt16) :
    (longestRun ps).2 ≤ zeroRun (ps.drop (longestRun ps).1) := by
  have hfold : ∀ (is : List Nat) (best : Nat × Nat), best.2 ≤ zeroRun (ps.drop best.1) →
      (is.foldl (fun best i =>
        if best.2 < zeroRun (ps.drop i) then (i, zeroRun (ps.drop i)) else best) best).2 ≤
      zeroRun (ps.drop (is.foldl (fun best i =>
        if best.2 < zeroRun (ps.drop i) then (i, zeroRun (ps.drop i)) else best) best).1) := by
    intro is
    induction is with
    | nil => exact fun best h => h
    | cons i is ih =>
        intro best h
        rw [List.foldl_cons]
        split
        · exact ih _ (Nat.le_refl _)
        · exact ih best h
  exact hfold (List.range ps.length) (0, 0) (Nat.zero_le _)

theorem zeroRun_le_length (ps : List UInt16) : zeroRun ps ≤ ps.length :=
  (List.takeWhile_sublist _).length_le

theorem take_of_le_zeroRun : ∀ {ps : List UInt16} {n : Nat}, n ≤ zeroRun ps →
    ps.take n = List.replicate n 0
  | ps, 0, _ => rfl
  | [], n + 1, h => absurd h (Nat.not_succ_le_zero n)
  | p :: ps, n + 1, h => by
      rw [zeroRun, List.takeWhile_cons] at h
      split at h
      next hp =>
        rw [List.length_cons, Nat.add_le_add_iff_right] at h
        rw [List.take_succ_cons, take_of_le_zeroRun h, beq_iff_eq.mp hp]
        rfl
      next => exact absurd h (Nat.not_succ_le_zero n)

/-! ## Addresses -/

/-- The pieces around a gap are read as all of them. -/
theorem finish?_around {ps : List UInt16} (h : ps.length = 8) {start length : Nat}
    (hrun : length ≤ zeroRun (ps.drop start)) (hlength : 0 < length) :
    Reader.finish? ⟨(ps.take start).map UInt16.toNat,
      some ((ps.drop (start + length)).map UInt16.toNat)⟩ = some ps := by
  have hle := Nat.le_trans hrun (zeroRun_le_length _)
  rw [List.length_drop] at hle
  have hzeros := take_of_le_zeroRun hrun
  rw [Reader.finish?]
  dsimp only
  rw [List.length_map, List.length_map, List.length_take, List.length_drop, List.map_append,
    List.map_append, map_ofNat_toNat, map_ofNat_toNat, List.map_replicate,
    show 8 - min start ps.length - (ps.length - (start + length)) = length by omega]
  have hzero : UInt16.ofNat 0 = 0 := rfl
  rw [hzero, ← hzeros, ← List.drop_drop, List.append_assoc, List.take_append_drop,
    List.take_append_drop]

/-- A text that begins with no colon is read piece by piece. -/
theorem parse?_of_head {c : Char} {cs : List Char} (hc : c ≠ ':') (hcs : cs ≠ []) :
    parse? (c :: cs) = read? (c :: cs).length ⟨[], none⟩ (c :: cs) := by
  have hlength : ¬ (c :: cs).length < 2 := by
    have hpos := List.length_pos_iff.mpr hcs
    rw [List.length_cons]
    omega
  rw [parse?]
  · rw [if_neg hlength]
  · rintro _ h
    cases h
    exact hc rfl
  · rintro _ h
    cases h
    exact hc rfl

/-- The pieces behind a gap. -/
theorem read?_tail (before : List Nat) (ps : List UInt16) {count : Nat}
    (htaken : before.length + ps.length < 8) (hcount : (joined ps).length ≤ count) :
    read? count ⟨before, some []⟩ (joined ps) =
      Reader.finish? ⟨before, some (ps.map UInt16.toNat)⟩ := by
  cases ps with
  | nil =>
      rw [joined, List.map_nil]
      cases count <;> rfl
  | cons p ps =>
      have htaken' : Reader.taken ⟨before, some []⟩ + ps.length < 8 := by
        rw [List.length_cons] at htaken
        rw [Reader.taken]
        dsimp only
        rw [List.length_nil]
        omega
      rw [read?_joined p ps count _ htaken' hcount, pushAll_after, List.nil_append]

theorem ne_colon_of_isHex {c : Char} (h : isHex c = true) : c ≠ ':' := by
  rintro rfl
  exact absurd h (by decide)

theorem parse?_joined {ps : List UInt16} (h : ps.length = 8) : parse? (joined ps) = some ps := by
  obtain ⟨p, q, qs, rfl⟩ : ∃ p q qs, ps = p :: q :: qs := by
    match ps, h with
    | p :: q :: qs, _ => exact ⟨p, q, qs, rfl⟩
  obtain ⟨d, ds, hd, hhex⟩ := joined_cons p (q :: qs)
  have hcolon := ne_colon_of_isHex hhex
  have hds : ds ≠ [] := by
    rintro rfl
    have hmem : ':' ∈ joined (p :: q :: qs) := by
      rw [joined_cons_cons]
      exact List.mem_append_right _ List.mem_cons_self
    rw [hd, List.mem_singleton] at hmem
    exact hcolon hmem.symm
  have htaken : Reader.taken ⟨[], none⟩ + (q :: qs).length < 8 := by
    rw [List.length_cons] at h
    rw [Reader.taken, List.length_nil]
    dsimp only
    omega
  have hread := read?_joined p (q :: qs) _ ⟨[], none⟩ htaken (Nat.le_refl _)
  rw [hd] at hread ⊢
  rw [parse?_of_head hcolon hds, hread, pushAll_before, List.nil_append, Reader.finish?]
  dsimp only
  rw [List.length_map, if_pos h, map_ofNat_toNat]

/-- A gap in place of two zeros or more is filled with these zeros. -/
theorem parse?_gap {ps : List UInt16} (h : ps.length = 8) {start length : Nat}
    (hrun : length ≤ zeroRun (ps.drop start)) (hlength : 2 ≤ length) :
    parse? (joined (ps.take start) ++ [':', ':'] ++ joined (ps.drop (start + length))) =
      some ps := by
  have hle := Nat.le_trans hrun (zeroRun_le_length _)
  rw [List.length_drop] at hle
  have hfinish := finish?_around h hrun (by omega)
  have htail : (ps.drop (start + length)).length = 8 - (start + length) := by
    rw [List.length_drop, h]
  cases hfront : ps.take start with
  | nil =>
      rw [hfront] at hfinish
      rw [joined, List.map_nil]
      have hread := read?_tail [] (ps.drop (start + length)) (by rw [List.length_nil]; omega)
        (Nat.le_refl _)
      exact hread.trans hfinish
  | cons p front =>
      have hstart : (p :: front).length = start := by
        rw [← hfront, List.length_take]
        omega
      rw [List.length_cons] at hstart
      rw [hfront] at hfinish
      obtain ⟨d, ds, hd, hhex⟩ := joined_cons p front
      have htaken : Reader.taken ⟨[], none⟩ + front.length < 7 := by
        rw [Reader.taken, List.length_nil]
        dsimp only
        omega
      obtain ⟨count, hcount, hread⟩ := read?_gap p front _ ⟨[], none⟩
        (joined (ps.drop (start + length))) rfl htaken (Nat.le_refl _)
      rw [List.append_assoc, List.cons_append, List.singleton_append]
      rw [hd, List.cons_append] at hread ⊢
      rw [parse?_of_head (ne_colon_of_isHex hhex)
        (List.append_ne_nil_of_right_ne_nil _ (List.cons_ne_nil _ _)), hread, pushAll_before,
        List.nil_append, read?_tail _ _ _ hcount]
      · exact hfinish
      · rw [List.length_map, List.length_cons]
        omega

/-- The text of eight pieces is read as these pieces. -/
theorem parse?_render {ps : List UInt16} (h : ps.length = 8) : parse? (render ps) = some ps := by
  have hrun := longestRun_le ps
  rw [render]
  generalize longestRun ps = run at hrun ⊢
  obtain ⟨start, length⟩ := run
  dsimp only at hrun ⊢
  split
  next => exact parse?_joined h
  next hlong => exact parse?_gap h hrun (Nat.le_of_not_lt hlong)

/-- Reading gives eight pieces if it gives any. -/
theorem length_read? : ∀ {count : Nat} {r : Reader} {cs : List Char} {ps : List UInt16},
    r.taken ≤ 8 → read? count r cs = some ps → ps.length = 8
  | _, r, [], ps, hr, h => by
      rw [read?] at h
      exact length_finish? hr h
  | 0, _, _ :: _, _, _, h => nomatch h
  | count + 1, r, c :: cs, ps, hr, h => by
      rw [read?] at h
      split at h
      next => cases h
      next hfull =>
        have hpush (p : Nat) : (r.push p).taken ≤ 8 := by
          rw [taken_push]
          omega
        split at h
        next =>
          split at h
          next => cases h
          next hafter =>
            refine length_read? ?_ h
            obtain ⟨before, after⟩ := r
            cases after with
            | none =>
                rw [Reader.taken] at hfull hr ⊢
                dsimp only at hfull hr ⊢
                rw [List.length_nil]
                omega
            | some _ => exact absurd rfl hafter
        next =>
          dsimp only at h
          split at h
          next => exact length_finish? (hpush _) h
          next =>
            split at h
            next => cases h
            next hroom =>
              rw [Bool.or_eq_true, decide_eq_true_eq] at hroom
              obtain ⟨⟨high, low⟩, _, hfinish⟩ := Option.bind_eq_some_iff.mp h
              refine length_finish? ?_ hfinish
              rw [taken_push, taken_push]
              omega
          next =>
            split at h
            next => cases h
            next => exact length_read? (hpush _) h
          next => cases h

theorem length_parse? {cs : List Char} {ps : List UInt16} (h : parse? cs = some ps) :
    ps.length = 8 := by
  rw [parse?.eq_def] at h
  split at h
  next => exact length_read? (by decide) h
  next => cases h
  next =>
    split at h
    next => cases h
    next => exact length_read? (by decide) h

/-- The text of an address holds digits and colons. -/
theorem mem_render {ps : List UInt16} {c : Char} (h : c ∈ render ps) :
    c = ':' ∨ isHex c = true := by
  have hjoined {qs : List UInt16} (hc : c ∈ joined qs) : c = ':' ∨ isHex c = true := by
    rcases mem_intercalate hc with hc | ⟨piece, hpiece, hc⟩
    · exact Or.inl hc
    · obtain ⟨p, _, rfl⟩ := List.mem_map.mp hpiece
      exact Or.inr (isHex_of_mem_hexadecimal hc)
  rw [render] at h
  generalize longestRun ps = run at h
  obtain ⟨start, length⟩ := run
  dsimp only at h
  split at h
  · exact hjoined h
  · rcases List.mem_append.mp h with h | h
    · rcases List.mem_append.mp h with h | h
      · exact hjoined h
      · simp only [List.mem_cons, List.not_mem_nil, or_false, or_self] at h
        exact Or.inl h
    · exact hjoined h

end VersionedApi.Url.Ipv6
