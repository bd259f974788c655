import VersionedApi.Text.Blank
import VersionedApi.Text.Split

/-!
# Pieces of a text

What the pieces of a cut text hold, and how a text that was put together is cut again: at its
separators (`splitBy_intercalate`), at its first separator (`cut?_append`) or at its last one
(`cutLast?_append`).  `dropEndWhile_eq_iff` is about the separators at the end of a text.
-/

namespace VersionedApi.Text

variable {α : Type} {p : α → Bool} {sep : Char}

-- A statement about the members of a list of characters would else be decided for all characters.
theorem forall_mem_of_all {P : Char → Prop} [DecidablePred P] {cs : List Char}
    (h : cs.all (fun c => decide (P c)) = true) : ∀ c ∈ cs, P c :=
  fun c hc => of_decide_eq_true (List.all_eq_true.mp h c hc)

/-- A piece holds members of the text and no separator. -/
theorem mem_splitBy : ∀ {cs piece : List α}, piece ∈ splitBy p cs → ∀ c ∈ piece, c ∈ cs ∧ p c = false
  | [], piece, h, c, hc => by
      rw [splitBy, List.mem_singleton] at h
      subst h
      cases hc
  | d :: cs, piece, h, c, hc => by
      rw [splitBy] at h
      split at h
      next =>
        rcases List.mem_cons.mp h with rfl | h
        · cases hc
        · obtain ⟨hmem, hp⟩ := mem_splitBy h c hc
          exact ⟨List.mem_cons_of_mem d hmem, hp⟩
      next hd =>
        have hd : p d = false := eq_false_of_ne_true hd
        cases hs : splitBy p cs with
        | nil => exact absurd hs (splitBy_ne_nil p cs)
        | cons first rest =>
            rw [hs] at h
            rcases List.mem_cons.mp h with rfl | h
            · rcases List.mem_cons.mp hc with rfl | hc
              · exact ⟨List.mem_cons_self, hd⟩
              · obtain ⟨hmem, hp⟩ := mem_splitBy (hs ▸ List.mem_cons_self) c hc
                exact ⟨List.mem_cons_of_mem d hmem, hp⟩
            · obtain ⟨hmem, hp⟩ := mem_splitBy (hs ▸ List.mem_cons_of_mem first h) c hc
              exact ⟨List.mem_cons_of_mem d hmem, hp⟩

/-- Pieces that are joined by a separator and hold none are the pieces of the joined text. -/
theorem splitBy_intercalate {sep : α} (hsep : p sep = true) :
    ∀ {pieces : List (List α)}, pieces ≠ [] → (∀ piece ∈ pieces, ∀ c ∈ piece, p c = false) →
      splitBy p ([sep].intercalate pieces) = pieces
  | [], hne, _ => absurd rfl hne
  | [piece], _, h => by
      rw [List.intercalate_singleton]
      exact splitBy_eq_singleton p piece (h piece List.mem_cons_self)
  | piece :: next :: rest, _, h => by
      have hrest := splitBy_intercalate hsep (List.cons_ne_nil next rest)
        fun q hq => h q (List.mem_cons_of_mem piece hq)
      rw [List.intercalate_cons_cons, List.append_assoc, List.singleton_append,
        splitBy_append p piece _ sep (h piece List.mem_cons_self) hsep, hrest]

/-- A separator cuts a text into two, whose pieces are those of the whole. -/
theorem splitBy_append_cons {α : Type} {p : α → Bool} {sep : α} (hsep : p sep = true) :
    ∀ front rest : List α, splitBy p (front ++ sep :: rest) = splitBy p front ++ splitBy p rest
  | [], rest => by simp [splitBy, hsep]
  | c :: front, rest => by
      have ih := splitBy_append_cons hsep front rest
      by_cases hc : p c = true
      · simp [splitBy, hc, ih]
      · cases hfront : splitBy p front with
        | nil => exact absurd hfront (splitBy_ne_nil p front)
        | cons piece pieces => simp [splitBy, hc, ih, hfront]

theorem cut?_append {front : List Char} (h : sep ∉ front) (rest : List Char) :
    cut? sep (front ++ sep :: rest) = some (front, rest) :=
  cutBy?_append _ front rest sep (fun _ hd => beq_eq_false_iff_ne.mpr fun e => h (e ▸ hd))
    (beq_self_eq_true sep)

theorem cut?_eq_none {cs : List Char} (h : sep ∉ cs) : cut? sep cs = none :=
  cutBy?_eq_none _ cs fun _ hd => beq_eq_false_iff_ne.mpr fun e => h (e ▸ hd)

theorem cutLast?_append {rest : List Char} (h : sep ∉ rest) (front : List Char) :
    cutLast? sep (front ++ sep :: rest) = some (front, rest) := by
  rw [cutLast?, List.reverse_append, List.reverse_cons, List.append_assoc, List.singleton_append,
    cut?_append (fun hmem => h (List.mem_reverse.mp hmem)), Option.map_some]
  dsimp only
  rw [List.reverse_reverse, List.reverse_reverse]

theorem cutLast?_eq_none {cs : List Char} (h : sep ∉ cs) : cutLast? sep cs = none := by
  rw [cutLast?, cut?_eq_none (fun hmem => h (List.mem_reverse.mp hmem)), Option.map_none]

theorem cutLast?_eq_some_iff {cs front rest : List Char} :
    cutLast? sep cs = some (front, rest) ↔ cs = front ++ sep :: rest ∧ sep ∉ rest := by
  constructor
  · intro h
    by_cases hmem : sep ∈ cs.reverse
    · obtain ⟨back, before, hcs, hback⟩ := List.eq_append_cons_of_mem hmem
      have hcut : cs = before.reverse ++ sep :: back.reverse := by
        rw [← List.reverse_reverse cs, hcs]
        simp
      have hrest : sep ∉ back.reverse := fun hmem => hback (List.mem_reverse.mp hmem)
      rw [hcut, cutLast?_append hrest] at h
      cases h
      exact ⟨hcut, hrest⟩
    · rw [cutLast?_eq_none fun hcs => hmem (List.mem_reverse.mpr hcs)] at h
      cases h
  · rintro ⟨rfl, hrest⟩
    exact cutLast?_append hrest front

/-- What a text is without the separators at its end. -/
theorem dropEndWhile_eq_iff {cs front : List Char} :
    dropEndWhile (· == sep) cs = front ↔
      (∃ n, cs = front ++ List.replicate n sep) ∧ front.getLast? ≠ some sep := by
  constructor
  · rintro rfl
    constructor
    · refine ⟨(cs.reverse.takeWhile (· == sep)).length, ?_⟩
      have hend : cs.reverse.takeWhile (· == sep) =
          List.replicate (cs.reverse.takeWhile (· == sep)).length sep :=
        List.eq_replicate_iff.mpr
          ⟨rfl, fun c hc => beq_iff_eq.mp (List.all_eq_true.mp List.all_takeWhile c hc)⟩
      have hcs := congrArg List.reverse (List.takeWhile_append_dropWhile (p := (· == sep))
        (l := cs.reverse))
      rw [hend, List.reverse_append, List.reverse_replicate, List.reverse_reverse] at hcs
      exact hcs.symm
    · intro hlast
      have hhead := List.head?_dropWhile_not (· == sep) cs.reverse
      rw [dropEndWhile, List.getLast?_reverse] at hlast
      rw [hlast] at hhead
      simp at hhead
  · rintro ⟨⟨n, rfl⟩, hlast⟩
    rw [dropEndWhile, List.reverse_append, List.reverse_replicate,
      List.dropWhile_append_of_pos (by simp)]
    cases hfront : front.reverse with
    | nil => rw [← List.reverse_reverse front, hfront]; rfl
    | cons c back =>
        have hc : ¬ (c == sep) = true := by
          rw [← List.head?_reverse, hfront] at hlast
          simpa using hlast
        rw [List.dropWhile_cons_of_neg (p := (· == sep)) hc, ← hfront, List.reverse_reverse]

/-- A piece and the separators behind it. -/
theorem splitOn_append_replicate {piece : List Char} (h : sep ∉ piece) (n : Nat) :
    splitOn sep (piece ++ List.replicate n sep) = piece :: List.replicate n [] := by
  have hpiece : ∀ c ∈ piece, (c == sep) = false :=
    fun c hc => beq_eq_false_iff_ne.mpr fun heq => h (heq ▸ hc)
  have hempty : ∀ n, splitBy (· == sep) (List.replicate n sep) = [] :: List.replicate n [] := by
    intro n
    induction n with
    | zero => rfl
    | succ n ih => simp [List.replicate_succ, splitBy, ih]
  cases n with
  | zero => simpa [splitOn] using splitBy_eq_singleton _ piece hpiece
  | succ n =>
      rw [splitOn, List.replicate_succ,
        splitBy_append _ piece _ sep hpiece (beq_self_eq_true sep), hempty]
      rfl

/-- The members of a joined text are those of its pieces and the separator. -/
theorem mem_intercalate {sep c : α} :
    ∀ {pieces : List (List α)}, c ∈ [sep].intercalate pieces → c = sep ∨ ∃ piece ∈ pieces, c ∈ piece
  | [], h => nomatch h
  | [piece], h => by
      rw [List.intercalate_singleton] at h
      exact Or.inr ⟨piece, List.mem_cons_self, h⟩
  | piece :: next :: rest, h => by
      rw [List.intercalate_cons_cons, List.append_assoc, List.singleton_append] at h
      rcases List.mem_append.mp h with h | h
      · exact Or.inr ⟨piece, List.mem_cons_self, h⟩
      · rcases List.mem_cons.mp h with h | h
        · exact Or.inl h
        · rcases mem_intercalate h with h | ⟨q, hq, h⟩
          · exact Or.inl h
          · exact Or.inr ⟨q, List.mem_cons_of_mem piece hq, h⟩

/-- A piece stands in what is joined of it. -/
theorem infix_intercalate {sep piece : List α} :
    ∀ {pieces : List (List α)}, piece ∈ pieces → piece <:+: sep.intercalate pieces
  | [], h => nomatch h
  | [p], h => by
      have hsame : sep.intercalate [p] = piece :=
        List.intercalate_singleton.trans (List.mem_singleton.mp h).symm
      exact hsame ▸ List.infix_rfl
  | p :: next :: rest, h => by
      rw [List.intercalate_cons_cons]
      rcases List.mem_cons.mp h with rfl | h
      · rw [List.append_assoc]
        exact (List.prefix_append _ _).isInfix
      · exact (infix_intercalate h).trans (List.suffix_append _ _).isInfix

end VersionedApi.Text
