import VersionedApi.Proofs.Url.DomainMapping
import VersionedApi.Proofs.Url.Punycode

/-!
# The ASCII form of an ASCII form

A domain name in its ASCII form is its own ASCII form (`toAscii?_toAscii?`).  Such a name is ASCII
without capitals, so mapping leaves it alone, and each of its labels is read as the label that it
was written for (`readLabel?_writeLabel`).
-/

namespace VersionedApi.Url.Domain

open VersionedApi.Text

/-! ## Labels -/

theorem isAscii_iff {cs : List Char} : isAscii cs = true ↔ ∀ c ∈ cs, c.toNat < 0x80 := by
  rw [isAscii, List.all_eq_true]
  exact ⟨fun h c hc => of_decide_eq_true (h c hc), fun h c hc => decide_eq_true (h c hc)⟩

/-- A piece that is kept is ASCII without the mark, or a label that its Punycode stands for and of
which either the Punycode or the label itself is the piece. -/
theorem readLabel?_eq_some {piece label : List Char} (h : readLabel? piece = some label) :
    (isAscii piece = true ∧ piece.take 4 ≠ mark ∧ label = piece) ∨
    (isAscii label = false ∧ isStable label = true ∧
      Punycode.decode? (Punycode.encode label) = some label ∧
      (piece = mark ++ Punycode.encode label ∨ piece = label)) := by
  rw [readLabel?] at h
  split at h
  next hascii =>
    split at h
    next hmark =>
      split at h
      next decoded hdecoded =>
        split at h
        next hchecks =>
          rw [Bool.and_eq_true, Bool.and_eq_true, decide_eq_true_eq, Bool.not_eq_true'] at hchecks
          obtain ⟨⟨hwide, hstable⟩, hencode⟩ := hchecks
          cases h
          refine Or.inr ⟨hwide, hstable, hencode ▸ hdecoded, Or.inl ?_⟩
          rw [hencode, ← hmark, List.take_append_drop]
        next => cases h
      next => cases h
    next hmark =>
      cases h
      exact Or.inl ⟨hascii, hmark, rfl⟩
  next hwide =>
    split at h
    next hchecks =>
      rw [Bool.and_eq_true, Bool.and_eq_true, decide_eq_true_eq, decide_eq_true_eq] at hchecks
      cases h
      exact Or.inr ⟨eq_false_of_ne_true hwide, hchecks.1.1, hchecks.2, Or.inr rfl⟩
    next => cases h

/-- A label is written with the characters of its piece and those of Punycode. -/
theorem mem_writeLabel {piece label : List Char} (h : readLabel? piece = some label) {c : Char}
    (hc : c ∈ writeLabel label) :
    c.toNat < 0x80 ∧ (c ∈ piece ∨ c ∈ "-abcdefghijklmnopqrstuvwxyz0123456789".toList) := by
  have hmarks : ∀ d ∈ mark, d.toNat < 0x80 ∧ d ∈ "-abcdefghijklmnopqrstuvwxyz0123456789".toList :=
    forall_mem_of_all (by decide)
  have hdigits : ∀ d < 36, (Punycode.digit d).toNat < 0x80 ∧
      Punycode.digit d ∈ "-abcdefghijklmnopqrstuvwxyz0123456789".toList := by
    decide
  rcases readLabel?_eq_some h with ⟨hascii, _, rfl⟩ | ⟨hwide, _, _, hpiece⟩
  · rw [writeLabel, if_pos hascii] at hc
    exact ⟨isAscii_iff.mp hascii c hc, Or.inl hc⟩
  · rw [writeLabel, hwide] at hc
    rcases List.mem_append.mp hc with hc | hc
    · exact ⟨(hmarks c hc).1, Or.inr (hmarks c hc).2⟩
    · rcases Punycode.mem_encode hc with ⟨hmem, hascii⟩ | rfl | ⟨d, hd, rfl⟩
      · refine ⟨hascii, Or.inl ?_⟩
        rcases hpiece with rfl | rfl
        · exact List.mem_append_right _ hc
        · exact hmem
      · exact ⟨by decide, Or.inr (by decide)⟩
      · exact ⟨(hdigits d hd).1, Or.inr (hdigits d hd).2⟩

/-- A label is read from the form that it is written in. -/
theorem readLabel?_writeLabel {piece label : List Char} (h : readLabel? piece = some label) :
    readLabel? (writeLabel label) = some label := by
  have hascii : isAscii (writeLabel label) = true :=
    isAscii_iff.mpr fun c hc => (mem_writeLabel h hc).1
  rcases readLabel?_eq_some h with ⟨hpiece, hmark, rfl⟩ | ⟨hwide, hstable, hdecode, _⟩
  · rw [writeLabel, if_pos hpiece, readLabel?, if_pos hpiece, if_neg hmark]
  · have hwrite : writeLabel label = mark ++ Punycode.encode label := by
      rw [writeLabel, hwide]
      rfl
    have htake : (mark ++ Punycode.encode label).take 4 = mark := rfl
    have hdrop : (mark ++ Punycode.encode label).drop 4 = Punycode.encode label := rfl
    rw [hwrite] at hascii ⊢
    rw [readLabel?, if_pos hascii, if_pos htake, hdrop, hdecode]
    dsimp only
    rw [hwide, hstable, if_pos]
    rw [Bool.and_eq_true, decide_eq_true_eq]
    exact ⟨rfl, rfl⟩

/-! ## Names -/

section

variable {name mapped : List Char} {labels : List (List Char)}

/-- The form of a label of a mapped name is ASCII without capitals and points. -/
theorem plain_writeLabel (hmapped : map? name = some mapped)
    (hlabels : (splitOn '.' mapped).mapM readLabel? = some labels) {label : List Char}
    (hlabel : label ∈ labels) {c : Char} (hc : c ∈ writeLabel label) :
    c.toNat < 0x80 ∧ NoCapital c ∧ c ≠ '.' := by
  obtain ⟨piece, hpiece, hread⟩ := mem_of_mapM hlabels label hlabel
  obtain ⟨hascii, hmem | hmem⟩ := mem_writeLabel hread hc
  · obtain ⟨hmem, hpoint⟩ := mem_splitBy hpiece c hmem
    exact ⟨hascii, noCapital_map? hmapped c hmem, ne_of_beq_false hpoint⟩
  · have hall : ∀ d ∈ "-abcdefghijklmnopqrstuvwxyz0123456789".toList, NoCapital d ∧ d ≠ '.' :=
      forall_mem_of_all (by decide)
    exact ⟨hascii, hall c hmem⟩

theorem plain_join (hmapped : map? name = some mapped)
    (hlabels : (splitOn '.' mapped).mapM readLabel? = some labels) :
    ∀ c ∈ ['.'].intercalate (labels.map writeLabel), c.toNat < 0x80 ∧ NoCapital c := by
  intro c hc
  rcases mem_intercalate hc with rfl | ⟨form, hform, hc⟩
  · decide
  · obtain ⟨label, hlabel, rfl⟩ := List.mem_map.mp hform
    obtain ⟨hascii, hcapital, _⟩ := plain_writeLabel hmapped hlabels hlabel hc
    exact ⟨hascii, hcapital⟩

theorem splitOn_join (hmapped : map? name = some mapped)
    (hlabels : (splitOn '.' mapped).mapM readLabel? = some labels) :
    splitOn '.' (['.'].intercalate (labels.map writeLabel)) = labels.map writeLabel := by
  refine splitOn_intercalate '.' _ ?_ fun form hform hpoint => ?_
  · intro hnil
    have hlength := length_of_mapM hlabels
    rw [List.map_eq_nil_iff.mp hnil] at hlength
    exact splitBy_ne_nil _ mapped (List.eq_nil_of_length_eq_zero hlength.symm)
  · obtain ⟨label, hlabel, rfl⟩ := List.mem_map.mp hform
    exact (plain_writeLabel hmapped hlabels hlabel hpoint).2.2 rfl

end

/-- What the ASCII form of a name is made of. -/
theorem toAscii?_eq_some_iff {name ascii : List Char} :
    toAscii? name = some ascii ↔
      ∃ mapped labels, map? name = some mapped ∧
        (splitOn '.' mapped).mapM readLabel? = some labels ∧
        ascii = ['.'].intercalate (labels.map writeLabel) ∧
        Direction.keepsOrder labels = true ∧ ∀ c ∈ ascii, forbidden c = false := by
  constructor
  · intro h
    obtain ⟨mapped, hmapped, h⟩ := Option.bind_eq_some_iff.mp h
    obtain ⟨labels, hlabels, h⟩ := Option.bind_eq_some_iff.mp h
    dsimp only at h
    split at h
    next hchecks =>
      cases h
      rw [Bool.and_eq_true, Bool.not_eq_true', List.any_eq_false] at hchecks
      exact ⟨mapped, labels, hmapped, hlabels, rfl, hchecks.1,
        fun c hc => eq_false_of_ne_true (hchecks.2 c hc)⟩
    next => cases h
  · rintro ⟨mapped, labels, hmapped, hlabels, rfl, horder, hallowed⟩
    refine Option.bind_eq_some_iff.mpr ⟨mapped, hmapped, Option.bind_eq_some_iff.mpr
      ⟨labels, hlabels, if_pos ?_⟩⟩
    rw [Bool.and_eq_true, Bool.not_eq_true', List.any_eq_false]
    exact ⟨horder, fun c hc => by rw [hallowed c hc]; exact Bool.false_ne_true⟩

/-- The ASCII form of a name is its own ASCII form. -/
theorem toAscii?_toAscii? {name ascii : List Char} (h : toAscii? name = some ascii) :
    toAscii? ascii = some ascii := by
  obtain ⟨mapped, labels, hmapped, hlabels, rfl, horder, hallowed⟩ := toAscii?_eq_some_iff.mp h
  have hreread : (labels.map writeLabel).mapM readLabel? = some labels := by
    refine mapM_of_forall fun label hlabel => ?_
    obtain ⟨piece, _, hpiece⟩ := mem_of_mapM hlabels label hlabel
    exact readLabel?_writeLabel hpiece
  refine toAscii?_eq_some_iff.mpr ⟨_, labels, map?_of_ascii (plain_join hmapped hlabels), ?_, rfl,
    horder, hallowed⟩
  rw [splitOn_join hmapped hlabels, hreread]

/-- The ASCII form of a name is ASCII without capitals. -/
theorem plain_toAscii? {name ascii : List Char} (h : toAscii? name = some ascii) :
    ∀ c ∈ ascii, c.toNat < 0x80 ∧ NoCapital c := by
  obtain ⟨mapped, labels, hmapped, hlabels, rfl, _⟩ := toAscii?_eq_some_iff.mp h
  exact plain_join hmapped hlabels

/-- The ASCII form of a name holds no character that the host of a URL may not hold. -/
theorem not_forbidden_toAscii? {name ascii : List Char} (h : toAscii? name = some ascii) :
    ∀ c ∈ ascii, forbidden c = false := by
  obtain ⟨_, _, _, _, _, _, hallowed⟩ := toAscii?_eq_some_iff.mp h
  exact hallowed

/-! ## Names that stand for themselves -/

theorem direction_of_ascii {c : Char} (h : c.toNat < 0x80) :
    Direction.of c ≠ .right ∧ Direction.of c ≠ .arabicNumber := by
  rw [Direction.of, if_pos h]
  split
  · decide
  · split
    · decide
    · decide

/-- Labels in ASCII do not run from right to left. -/
theorem keepsOrder_of_ascii {labels : List (List Char)}
    (h : ∀ label ∈ labels, ∀ c ∈ label, c.toNat < 0x80) : Direction.keepsOrder labels = true := by
  have hright : (labels.map (·.map Direction.of)).any Direction.runsRight = false := by
    rw [List.any_eq_false]
    intro line hline hruns
    obtain ⟨label, hlabel, rfl⟩ := List.mem_map.mp hline
    rw [Direction.runsRight, List.any_map] at hruns
    obtain ⟨c, hc, hdirection⟩ := List.any_eq_true.mp hruns
    obtain ⟨hnoRight, hnoArabic⟩ := direction_of_ascii (h label hlabel c hc)
    rw [Function.comp_apply, Bool.or_eq_true, decide_eq_true_eq, decide_eq_true_eq] at hdirection
    rcases hdirection with hdirection | hdirection
    · exact hnoRight hdirection
    · exact hnoArabic hdirection
  rw [Direction.keepsOrder, hright]
  rfl

/-- A name in ASCII without capitals, marks of Punycode and forbidden characters is its own ASCII
form. -/
theorem toAscii?_of_plain {name : List Char} (h : ∀ c ∈ name, c.toNat < 0x80 ∧ NoCapital c)
    (hmark : ∀ label ∈ splitOn '.' name, label.take 4 ≠ mark)
    (hallowed : ∀ c ∈ name, forbidden c = false) : toAscii? name = some name := by
  have hlabels : ∀ label ∈ splitOn '.' name, ∀ c ∈ label, c.toNat < 0x80 :=
    fun label hlabel c hc => (h c (mem_splitBy hlabel c hc).1).1
  have hread : (splitOn '.' name).mapM readLabel? = some (splitOn '.' name) := by
    have hmapM := mapM_of_forall (f := readLabel?) (g := id) fun label hlabel => by
      rw [id, readLabel?, if_pos (isAscii_iff.mpr (hlabels label hlabel)),
        if_neg (hmark label hlabel)]
    rw [List.map_id] at hmapM
    exact hmapM
  have hwrite : (splitOn '.' name).map writeLabel = splitOn '.' name := by
    refine (List.map_congr_left fun label hlabel => ?_).trans (List.map_id _)
    rw [writeLabel, if_pos (isAscii_iff.mpr (hlabels label hlabel)), id]
  refine toAscii?_eq_some_iff.mpr ⟨name, _, map?_of_ascii h, hread, ?_,
    keepsOrder_of_ascii hlabels, hallowed⟩
  rw [hwrite, intercalate_splitOn]

end VersionedApi.Url.Domain
