import VersionedApi.Url.Domain
import VersionedApi.Proofs.Text.Composition
import VersionedApi.Proofs.Text.Pieces
import VersionedApi.Proofs.Text.Trim

/-!
# The mapping of domain names

A mapped name holds no ASCII capital (`noCapital_map?`), and an ASCII name without capitals is
mapped to itself (`map?_of_ascii`).  The first is a matter of the tables: no row of them brings in
a capital.
-/

namespace VersionedApi.Url.Domain

open VersionedApi.Text

set_option maxRecDepth 20000

/-! ## One character -/

theorem noCapital_toLower (c : Char) : NoCapital c.toLower := by
  by_cases hc : NoCapital c
  · rw [toLower_of_noCapital hc]
    exact hc
  · rw [NoCapital, not_or] at hc
    have hall : ∀ n < 91, 65 ≤ n → NoCapital (Char.ofNat n).toLower := by decide
    have h := hall c.toNat (by omega) (by omega)
    rw [Char.ofNat_toNat] at h
    exact h

theorem noCapital_images : ∀ row ∈ images, ∀ c ∈ row.images.toList, NoCapital c := by
  simp only [images, List.forall_mem_cons]
  and_intros
  all_goals first
    | exact noCapital_row (by decide +kernel)
    | exact fun _ h => nomatch h

theorem noCapital_image? {c d : Char} {image : List Char} (h : CharRow.image? images c = some image)
    (hd : d ∈ image) : NoCapital d := by
  obtain ⟨row, hrow, hpiece⟩ := Option.bind_eq_some_iff.mp h
  have hmem : row ∈ images :=
    (List.takeWhile_sublist _).subset (List.mem_of_getLast? hrow)
  exact noCapital_images row hmem d (mem_splitBy (List.mem_of_getElem? hpiece) d hd).1

theorem noCapital_lowerChar {c d : Char} (hc : ¬ c.toNat < 0x80) (hd : d ∈ lowerChar c) :
    NoCapital d := by
  rcases lowerChar_of_not_ascii hc with hdotted | ⟨small, hsmall, hout⟩
  · have hnone : ∀ d ∈ ['i', Char.ofNat 0x0307], NoCapital d := forall_mem_of_all (by decide)
    exact hnone d (hdotted ▸ hd)
  · obtain rfl : d = small := by simpa [hsmall] using hd
    rcases hout with hout | rfl
    · exact Or.inr (by omega)
    · decide

theorem noCapital_mapChar? {c d : Char} {image : List Char} (h : mapChar? c = some image)
    (hd : d ∈ image) : NoCapital d := by
  rw [mapChar?] at h
  split at h
  next =>
    cases h
    rw [List.mem_singleton] at hd
    exact hd ▸ noCapital_toLower c
  next hc =>
    split at h
    next =>
      cases h
      cases hd
    next =>
      split at h
      next image' himage =>
        cases h
        exact noCapital_image? himage hd
      next =>
        split at h
        next =>
          cases h
          rw [List.mem_singleton] at hd
          exact hd ▸ Or.inr (by omega)
        next =>
          split at h
          next => cases h
          next =>
            cases h
            exact noCapital_lowerChar hc hd

/-! ## A name -/

/-- The members of a list are mapped one by one. -/
theorem mem_of_mapM {α β : Type} {f : α → Option β} : ∀ {xs : List α} {ys : List β},
    xs.mapM f = some ys → ∀ y ∈ ys, ∃ x ∈ xs, f x = some y
  | [], ys, h, y, hy => by
      cases h
      cases hy
  | x :: xs, ys, h, y, hy => by
      rw [List.mapM_cons] at h
      obtain ⟨z, hz, h⟩ := Option.bind_eq_some_iff.mp h
      obtain ⟨zs, hzs, h⟩ := Option.bind_eq_some_iff.mp h
      cases h
      rcases List.mem_cons.mp hy with rfl | hy
      · exact ⟨x, List.mem_cons_self, hz⟩
      · obtain ⟨w, hw, hfw⟩ := mem_of_mapM hzs y hy
        exact ⟨w, List.mem_cons_of_mem x hw, hfw⟩

theorem length_of_mapM {α β : Type} {f : α → Option β} : ∀ {xs : List α} {ys : List β},
    xs.mapM f = some ys → ys.length = xs.length
  | [], ys, h => by
      cases h
      rfl
  | x :: xs, ys, h => by
      rw [List.mapM_cons] at h
      obtain ⟨z, _, h⟩ := Option.bind_eq_some_iff.mp h
      obtain ⟨zs, hzs, h⟩ := Option.bind_eq_some_iff.mp h
      cases h
      rw [List.length_cons, List.length_cons, length_of_mapM hzs]

theorem mapM_of_forall {α β : Type} {f : α → Option β} {g : β → α} : ∀ {ys : List β},
    (∀ y ∈ ys, f (g y) = some y) → (ys.map g).mapM f = some ys
  | [], _ => rfl
  | y :: ys, h => by
      obtain ⟨hy, hys⟩ := List.forall_mem_cons.mp h
      rw [List.map_cons, List.mapM_cons, hy, mapM_of_forall hys]
      rfl

/-- A mapped name holds no ASCII capital. -/
theorem noCapital_map? {cs mapped : List Char} (h : map? cs = some mapped) :
    ∀ c ∈ mapped, NoCapital c := by
  obtain ⟨images, himages, rfl⟩ := Option.map_eq_some_iff.mp h
  refine noCapital_compose fun c hc => ?_
  obtain ⟨image, himage, hc⟩ := List.mem_flatten.mp hc
  obtain ⟨d, _, hd⟩ := mem_of_mapM himages image himage
  exact noCapital_mapChar? hd hc

/-- Mapping leaves an ASCII name without capitals alone. -/
theorem map?_of_ascii {cs : List Char} (h : ∀ c ∈ cs, c.toNat < 0x80 ∧ NoCapital c) :
    map? cs = some cs := by
  have himages : cs.mapM mapChar? = some (cs.map fun c => [c]) := by
    induction cs with
    | nil => rfl
    | cons c cs ih =>
        obtain ⟨hc, hcs⟩ := List.forall_mem_cons.mp h
        rw [List.mapM_cons, ih hcs, mapChar?, if_pos hc.1, toLower_of_noCapital hc.2]
        rfl
  have hflat : (cs.map fun c => [c]).flatten = cs := List.flatMap_singleton' cs
  rw [map?, himages, Option.map_some, hflat, compose_of_ascii fun c hc => (h c hc).1]

end VersionedApi.Url.Domain
