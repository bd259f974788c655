import VersionedApi.Text.Composition
import VersionedApi.Proofs.Text.Pieces

/-!
# Composition and capitals

The composed form of an ASCII text is the text (`compose_of_ascii`), and composing brings in no
ASCII capital (`noCapital_compose`): the table of joins is one of small letters.
-/

namespace VersionedApi.Text

set_option maxRecDepth 10000

/-- A character that is no ASCII capital. -/
def NoCapital (c : Char) : Prop := c.toNat < 65 ∨ 90 < c.toNat

instance (c : Char) : Decidable (NoCapital c) :=
  inferInstanceAs (Decidable (c.toNat < 65 ∨ 90 < c.toNat))

/-- A row of a table is checked on the characters that it is written with. -/
theorem noCapital_row {cs : List Char} (h : cs.all (fun c => decide (NoCapital c)) = true) :
    ∀ c ∈ (String.ofList cs).toList, NoCapital c := by
  rw [String.toList_ofList]
  exact forall_mem_of_all h

theorem toLower_of_noCapital {c : Char} (h : NoCapital c) : c.toLower = c := by
  refine dif_neg ?_
  rintro ⟨hA, hZ⟩
  have hA : 65 ≤ c.toNat := hA
  have hZ : c.toNat ≤ 90 := hZ
  rcases h with h | h
  · omega
  · omega

theorem noCapital_ofNat {n : Nat} (h : n < 65 ∨ 90 < n) : NoCapital (Char.ofNat n) := by
  by_cases hn : n.isValidChar
  · rw [Char.ofNat, dif_pos hn]
    exact h
  · rw [Char.ofNat, dif_neg hn]
    exact Or.inl (by decide)

/-! ## Joining -/

theorem noCapital_joins : ∀ row ∈ joins, ∀ c ∈ row.2.toList, NoCapital c := by
  simp only [joins, List.forall_mem_cons]
  and_intros
  all_goals first
    | exact noCapital_row (by decide)
    | exact fun _ h => nomatch h

theorem mem_of_find : ∀ {pairs : List Char} {a c : Char}, joinTable?.find a pairs = some c → c ∈ pairs
  | [], _, _, h => nomatch h
  | [_], _, _, h => nomatch h
  | x :: y :: rest, a, c, h => by
      rw [joinTable?.find] at h
      split at h
      next =>
        cases h
        exact List.mem_cons_of_mem x List.mem_cons_self
      next => exact List.mem_cons_of_mem x (List.mem_cons_of_mem y (mem_of_find h))

theorem mem_of_partFind : ∀ {pairs : List Char} {a c : Char},
    partTable?.find c pairs = some a → a ∈ pairs
  | [], _, _, h => nomatch h
  | [_], _, _, h => nomatch h
  | x :: y :: rest, a, c, h => by
      rw [partTable?.find] at h
      split at h
      next =>
        cases h
        exact List.mem_cons_self
      next => exact List.mem_cons_of_mem x (List.mem_cons_of_mem y (mem_of_partFind h))

theorem noCapital_joinTable? {a b c : Char} (h : joinTable? a b = some c) : NoCapital c := by
  obtain ⟨⟨second, pairs⟩, hrow, hfind⟩ := List.exists_of_findSome?_eq_some h
  dsimp only at hfind
  split at hfind
  next => exact noCapital_joins _ hrow c (mem_of_find hfind)
  next => cases hfind

theorem noCapital_joinHangul? {a b c : Char} (h : joinHangul? a b = some c) : NoCapital c := by
  rw [joinHangul?] at h
  split at h
  next =>
    rw [← Option.some.inj h]
    exact noCapital_ofNat (Or.inr (by omega))
  next =>
    split at h
    next =>
      rw [← Option.some.inj h]
      exact noCapital_ofNat (Or.inr (by omega))
    next => cases h

theorem noCapital_join? {a b c : Char} (h : join? a b = some c) : NoCapital c := by
  rw [join?] at h
  split at h
  next => cases h
  next =>
    cases hj : joinHangul? a b with
    | some d =>
        rw [hj] at h
        cases h
        exact noCapital_joinHangul? hj
    | none =>
        rw [hj] at h
        exact noCapital_joinTable? h

/-- A character behind a letter joins with it, or ends its marks, or is passed over. -/
theorem joinFrom_cons (letter : Char) (passed : List Char) (c : Char) (cs : List Char) :
    (∃ joined, join? letter c = some joined ∧
      joinFrom letter passed (c :: cs) = joinFrom joined passed cs) ∨
    joinFrom letter passed (c :: cs) = letter :: passed.reverse ++ joinFrom c [] cs ∨
    joinFrom letter passed (c :: cs) = joinFrom letter (c :: passed) cs := by
  rw [joinFrom.eq_def letter passed (c :: cs)]
  dsimp only
  split
  next joined hjoined =>
    exact Or.inl ⟨joined, (Option.ite_none_right_eq_some.mp hjoined).2, rfl⟩
  next =>
    split
    next => exact Or.inr (Or.inl rfl)
    next => exact Or.inr (Or.inr rfl)

theorem noCapital_joinFrom : ∀ {cs : List Char} {letter : Char} {passed : List Char},
    NoCapital letter → (∀ c ∈ passed, NoCapital c) → (∀ c ∈ cs, NoCapital c) →
      ∀ d ∈ joinFrom letter passed cs, NoCapital d
  | [], letter, passed, hletter, hpassed, _, d, hd => by
      rw [joinFrom] at hd
      rcases List.mem_cons.mp hd with rfl | hd
      · exact hletter
      · exact hpassed d (List.mem_reverse.mp hd)
  | c :: cs, letter, passed, hletter, hpassed, hcs, d, hd => by
      obtain ⟨hc, hrest⟩ := List.forall_mem_cons.mp hcs
      rcases joinFrom_cons letter passed c cs with ⟨joined, hjoined, heq⟩ | heq | heq
      · rw [heq] at hd
        exact noCapital_joinFrom (noCapital_join? hjoined) hpassed hrest d hd
      · rw [heq] at hd
        rcases List.mem_append.mp hd with hd | hd
        · rcases List.mem_cons.mp hd with rfl | hd
          · exact hletter
          · exact hpassed d (List.mem_reverse.mp hd)
        · exact noCapital_joinFrom hc (List.forall_mem_nil _) hrest d hd
      · rw [heq] at hd
        exact noCapital_joinFrom hletter (List.forall_mem_cons.mpr ⟨hc, hpassed⟩) hrest d hd

/-! ## Taking apart and sorting -/

theorem noCapital_partTable? {c : Char} {parts : Char × Char} (h : partTable? c = some parts) :
    NoCapital parts.1 ∧ NoCapital parts.2 := by
  obtain ⟨⟨second, pairs⟩, hrow, hfind⟩ := List.exists_of_findSome?_eq_some h
  obtain ⟨a, ha, rfl⟩ := Option.map_eq_some_iff.mp hfind
  have hsecond : ∀ row ∈ joins, 90 < row.1 := by
    simp only [joins, List.forall_mem_cons]
    and_intros
    all_goals decide
  exact ⟨noCapital_joins _ hrow a (mem_of_partFind ha), noCapital_ofNat (Or.inr (hsecond _ hrow))⟩

theorem noCapital_partHangul? {c : Char} {parts : Char × Char} (h : partHangul? c = some parts) :
    NoCapital parts.1 ∧ NoCapital parts.2 := by
  rw [partHangul?] at h
  split at h
  next => cases h
  next hrange =>
    split at h
    next =>
      rw [← Option.some.inj h]
      dsimp only
      constructor
      · exact noCapital_ofNat (Or.inr (by omega))
      · exact noCapital_ofNat (Or.inr (by omega))
    next =>
      rw [← Option.some.inj h]
      dsimp only
      constructor
      · exact noCapital_ofNat (Or.inr (by omega))
      · exact noCapital_ofNat (Or.inr (by omega))

theorem noCapital_takeApart : ∀ (n : Nat) {c : Char}, NoCapital c →
    ∀ d ∈ takeApart n c, NoCapital d
  | 0, c, hc, d, hd => by
      rw [takeApart, List.mem_singleton] at hd
      exact hd ▸ hc
  | n + 1, c, hc, d, hd => by
      rw [takeApart] at hd
      split at hd
      next =>
        rw [List.mem_singleton] at hd
        exact hd ▸ hc
      next =>
        split at hd
        next a b hparts =>
          have hab : NoCapital a ∧ NoCapital b := by
            cases hh : partHangul? c with
            | some parts =>
                rw [hh] at hparts
                cases hparts
                exact noCapital_partHangul? hh
            | none =>
                rw [hh] at hparts
                exact noCapital_partTable? hparts
          rcases List.mem_append.mp hd with hd | hd
          · exact noCapital_takeApart n hab.1 d hd
          · rw [List.mem_singleton] at hd
            exact hd ▸ hab.2
        next =>
          rw [List.mem_singleton] at hd
          exact hd ▸ hc

theorem mem_sortInto {c d : Char} : ∀ {ds : List Char}, d ∈ sortInto c ds → d = c ∨ d ∈ ds
  | [], h => Or.inl (List.mem_singleton.mp h)
  | e :: ds, h => by
      rw [sortInto] at h
      split at h
      next =>
        rcases List.mem_cons.mp h with rfl | h
        · exact Or.inr List.mem_cons_self
        · rcases mem_sortInto h with h | h
          · exact Or.inl h
          · exact Or.inr (List.mem_cons_of_mem e h)
      next => exact List.mem_cons.mp h

theorem mem_sortMarks {d : Char} : ∀ {cs : List Char}, d ∈ sortMarks cs → d ∈ cs
  | [], h => nomatch h
  | c :: cs, h => by
      rcases mem_sortInto h with rfl | h
      · exact List.mem_cons_self
      · exact List.mem_cons_of_mem c (mem_sortMarks h)

/-- Composing a text without ASCII capitals brings in none. -/
theorem noCapital_compose {cs : List Char} (h : ∀ c ∈ cs, NoCapital c) :
    ∀ d ∈ compose cs, NoCapital d := by
  have hsorted : ∀ d ∈ sortMarks (cs.flatMap (takeApart 2)), NoCapital d := by
    intro d hd
    obtain ⟨c, hc, hd⟩ := List.mem_flatMap.mp (mem_sortMarks hd)
    exact noCapital_takeApart 2 (h c hc) d hd
  rw [compose]
  split
  next => exact fun d hd => nomatch hd
  next c rest hs =>
    rw [hs] at hsorted
    exact noCapital_joinFrom (hsorted c List.mem_cons_self) (List.forall_mem_nil _)
      fun e he => hsorted e (List.mem_cons_of_mem c he)

/-! ## ASCII -/

theorem markClass_of_ascii {c : Char} (h : c.toNat < 0x80) : markClass c = 0 := by
  rw [markClass, if_pos (by omega)]

theorem takeApart_of_ascii {c : Char} (h : c.toNat < 0x80) : takeApart 2 c = [c] := by
  rw [takeApart, if_pos (by omega)]

theorem sortMarks_of_ascii : ∀ {cs : List Char}, (∀ c ∈ cs, c.toNat < 0x80) → sortMarks cs = cs
  | [], _ => rfl
  | [c], _ => rfl
  | c :: d :: cs, h => by
      have hrest := sortMarks_of_ascii fun e he => h e (List.mem_cons_of_mem c he)
      have hclass := markClass_of_ascii (h d (List.mem_cons_of_mem c List.mem_cons_self))
      rw [sortMarks, List.foldr_cons]
      rw [sortMarks] at hrest
      rw [hrest, sortInto, hclass]
      rfl

theorem joinFrom_of_ascii : ∀ {cs : List Char} (letter : Char), (∀ c ∈ cs, c.toNat < 0x80) →
    joinFrom letter [] cs = letter :: cs
  | [], _, _ => rfl
  | c :: cs, letter, h => by
      have hc := h c List.mem_cons_self
      have hrest := joinFrom_of_ascii c fun d hd => h d (List.mem_cons_of_mem c hd)
      rw [joinFrom, join?, if_pos (show c.toNat < 0x300 by omega)]
      rw [if_pos rfl, markClass_of_ascii hc, if_pos rfl, hrest]
      rfl

/-- An ASCII text is composed already. -/
theorem compose_of_ascii {cs : List Char} (h : ∀ c ∈ cs, c.toNat < 0x80) : compose cs = cs := by
  have happart : cs.flatMap (takeApart 2) = cs := by
    induction cs with
    | nil => rfl
    | cons c cs ih =>
        rw [List.flatMap_cons, takeApart_of_ascii (h c List.mem_cons_self),
          ih fun d hd => h d (List.mem_cons_of_mem c hd)]
        rfl
  rw [compose, happart, sortMarks_of_ascii h]
  cases cs with
  | nil => rfl
  | cons c cs => exact joinFrom_of_ascii c fun d hd => h d (List.mem_cons_of_mem c hd)

end VersionedApi.Text
