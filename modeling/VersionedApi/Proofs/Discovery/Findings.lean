import Mathlib.Data.List.Forall2
import Mathlib.Data.List.TakeWhile
import VersionedApi.Discovery.Negotiation
import VersionedApi.Proofs.Text.Trim
import VersionedApi.Proofs.Version.Matching

/-!
# What a negotiation finds

A negotiation makes one version of each entry that the service lists, in their order, and one of
each name that the client offers: `Describes` says what a version has of its entry, `Offers` what it
has of its name, and `Findings` what all of the outcome is.  They say it completely, so that there
is one such outcome (`findings_iff`).

The URL of a version comes from the last link of the entry to itself, corrected by the URL that was
asked if such links are corrected.
-/

namespace VersionedApi

/-! ## The parts of a version -/

/-- A text without the letters `v` in front of it. -/
def ApiVersion.Bare (id bare : String) : Prop :=
  ∃ count, id.toList = List.replicate count 'v' ++ bare.toList ∧ bare.toList.head? ≠ some 'v'

theorem ApiVersion.bare_normalize (id : String) : Bare id (normalize id) := by
  rw [Bare, normalize, String.toList_ofList]
  refine ⟨(id.toList.takeWhile (· == 'v')).length, ?_, fun hhead => ?_⟩
  · have hfront : id.toList.takeWhile (· == 'v') =
        List.replicate (id.toList.takeWhile (· == 'v')).length 'v' :=
      List.eq_replicate_iff.mpr ⟨rfl, fun c hc => by simpa using List.mem_takeWhile_imp hc⟩
    rw [← hfront, List.takeWhile_append_dropWhile]
  · have hnot := List.head?_dropWhile_not (· == 'v') id.toList
    rw [hhead] at hnot
    simp at hnot

theorem ApiVersion.bare_iff {id bare : String} : Bare id bare ↔ bare = normalize id := by
  constructor
  · rintro ⟨count, hid, hhead⟩
    have hfront : ∀ c ∈ List.replicate count 'v', (c == 'v') = true :=
      fun c hc => beq_iff_eq.mpr (List.eq_of_mem_replicate hc)
    have hcore : ∀ c, bare.toList.head? = some c → (c == 'v') = false :=
      fun c hc => beq_eq_false_iff_ne.mpr fun hv => hhead (hv ▸ hc)
    rw [normalize, hid, Text.dropWhile_between hfront hcore, String.ofList_toList]
  · rintro rfl
    exact bare_normalize id

namespace VersionEntry

variable {e : VersionEntry} {l : Link}

theorem selfLink?_eq_none_iff : e.selfLink? = none ↔ ∀ l ∈ e.links, l.rel ≠ some "self" := by
  simp [selfLink?]

/-- The link of an entry to itself is the last one with that relation. -/
theorem selfLink?_eq_some_iff :
    e.selfLink? = some l ↔ ∃ before after, e.links = before ++ l :: after ∧ l.rel = some "self" ∧
      ∀ l' ∈ after, l'.rel ≠ some "self" := by
  rw [selfLink?, List.find?_eq_some_iff_append, decide_eq_true_eq]
  constructor
  · rintro ⟨hself, front, back, hlinks, hfront⟩
    refine ⟨back.reverse, front.reverse, ?_, hself, fun l' hl' => ?_⟩
    · rw [← List.reverse_reverse e.links, hlinks]
      simp
    · simpa using hfront l' (List.mem_reverse.mp hl')
  · rintro ⟨before, after, hlinks, hself, hafter⟩
    refine ⟨hself, after.reverse, before.reverse, ?_, fun l' hl' => ?_⟩
    · rw [hlinks]
      simp
    · simpa using hafter l' (List.mem_reverse.mp hl')

end VersionEntry

/-- Both halves of the chosen pair are from the lists. -/
theorem mem_of_matchVersions {servers clients : List ApiVersion} {m : VersionMatch}
    (h : matchVersions servers clients = some m) : m.server ∈ servers ∧ m.client ∈ clients := by
  obtain ⟨⟨hclient, _⟩, hserver, _⟩ := matchVersions_eq_some_iff.mp h
  exact ⟨(ApiVersion.mem_rank_iff.mp hserver).mem, (ApiVersion.mem_rank_iff.mp hclient).mem⟩

namespace Negotiation

/-! ## The findings -/

/-- What the version that is made of an entry has of it. -/
structure Describes (n : Negotiation) (probe : Url) (e : VersionEntry) (v : ApiVersion) : Prop where
  /-- The name is that of the interface. -/
  name : v.name = n.profile.apiName
  /-- The letters `v` in front of the entry's name are left out. -/
  id : ApiVersion.Bare e.id v.id
  /-- The status is kept. -/
  status : v.status = e.status
  /-- The links are kept. -/
  links : v.links = e.links
  /-- The other members are kept. -/
  extra : v.extra = e.extra
  /-- Three components count. -/
  length : v.length = 3
  /-- Without a link to itself the version has no URL. -/
  url_none : (∀ l ∈ e.links, l.rel ≠ some "self") → v.url = none
  /-- The URL is that of the last link to itself, corrected by the probe if that is wanted. -/
  url_some : ∀ before l after, e.links = before ++ l :: after → l.rel = some "self" →
    (∀ l' ∈ after, l'.rel ≠ some "self") →
    v.url = some
      (if n.workaroundUrlBug then correctSelfLink l.href probe n.placeholderHosts else l.href)

/-- What a version of the client has: a name and nothing that a service would give. -/
structure Offers (n : Negotiation) (id : String) (v : ApiVersion) : Prop where
  /-- The name is that of the interface. -/
  name : v.name = n.profile.apiName
  /-- The letters `v` in front are left out. -/
  id : ApiVersion.Bare id v.id
  /-- There is nothing else. -/
  rest : v.status = none ∧ v.url = none ∧ v.links = [] ∧ v.extra = [] ∧ v.length = 3

/-- The names of the versions that the client offers: only the one it wants, if there is one. -/
def offered (n : Negotiation) : List String :=
  match n.requested with
  | some id => [id]
  | none => n.clients

/-- What is found where the service lists entries. -/
structure Findings (n : Negotiation) (probe : Url) (entries : List VersionEntry)
    (found : Negotiated) : Prop where
  /-- The URL that was asked. -/
  probeUrl : found.probeUrl = probe
  /-- One version of the service for each entry, in order. -/
  servers : List.Forall₂ (n.Describes probe) entries found.serverVersions
  /-- One version of the client for each name it offers, in order. -/
  clients : List.Forall₂ n.Offers n.offered found.clientVersions
  /-- The pair is chosen from these lists. -/
  matched : found.matched = matchVersions found.serverVersions found.clientVersions
  /-- So both halves of it are from them. -/
  members : ∀ m, found.matched = some m →
    m.server ∈ found.serverVersions ∧ m.client ∈ found.clientVersions

/-- What a negotiation finds in a list of entries. -/
def found (n : Negotiation) (probe : Url) (entries : List VersionEntry) : Negotiated :=
  let servers := entries.map (n.serverVersion probe)
  ⟨probe, servers, n.clientVersions, matchVersions servers n.clientVersions⟩

variable {n : Negotiation} {probe : Url}

/-! ### One version of each -/

theorem describes_serverVersion (n : Negotiation) (probe : Url) (e : VersionEntry) :
    n.Describes probe e (n.serverVersion probe e) where
  name := rfl
  id := ApiVersion.bare_normalize e.id
  status := rfl
  links := rfl
  extra := rfl
  length := rfl
  url_none := fun h => congrArg (Option.map _) (VersionEntry.selfLink?_eq_none_iff.mpr h)
  url_some := fun before _ after hlinks hself hafter =>
    congrArg (Option.map _)
      (VersionEntry.selfLink?_eq_some_iff.mpr ⟨before, after, hlinks, hself, hafter⟩)

theorem describes_iff (n : Negotiation) (probe : Url) (e : VersionEntry) (v : ApiVersion) :
    n.Describes probe e v ↔ v = n.serverVersion probe e := by
  constructor
  · intro h
    have hurl : v.url = n.entryUrl? probe e := by
      rw [entryUrl?]
      cases hlink : e.selfLink? with
      | none => exact h.url_none (VersionEntry.selfLink?_eq_none_iff.mp hlink)
      | some l =>
          obtain ⟨before, after, hlinks, hself, hafter⟩ :=
            VersionEntry.selfLink?_eq_some_iff.mp hlink
          exact h.url_some before l after hlinks hself hafter
    obtain ⟨hname, hid, hstatus, hlinks, hextra, hlength, _, _⟩ := h
    cases v
    simp_all [serverVersion, ApiVersion.ofServer, ApiVersion.bare_iff]
  · rintro rfl
    exact n.describes_serverVersion probe e

theorem offers_iff (n : Negotiation) (id : String) (v : ApiVersion) :
    n.Offers id v ↔ v = .ofClient n.profile.apiName id := by
  constructor
  · rintro ⟨hname, hid, hrest⟩
    cases v
    simp_all [ApiVersion.ofClient, ApiVersion.bare_iff]
  · rintro rfl
    exact ⟨rfl, ApiVersion.bare_normalize id, rfl, rfl, rfl, rfl, rfl⟩

/-! ### One outcome -/

/-- A list whose members are determined one by one. -/
theorem forall₂_iff_eq_map {α β : Type} {R : α → β → Prop} {f : α → β}
    (h : ∀ x y, R x y ↔ y = f x) {xs : List α} {ys : List β} :
    List.Forall₂ R xs ys ↔ ys = xs.map f := by
  have hR : R = fun x y => f x = y := by
    funext x y
    exact propext ((h x y).trans eq_comm)
  rw [hR, ← List.forall₂_map_left_iff, List.forall₂_eq_eq_eq, eq_comm]

theorem offers_clientVersions_iff {clients : List ApiVersion} :
    List.Forall₂ n.Offers n.offered clients ↔ clients = n.clientVersions := by
  have hmap : n.clientVersions = n.offered.map (.ofClient n.profile.apiName) := by
    rw [clientVersions, offered]
    cases n.requested <;> rfl
  rw [hmap]
  exact forall₂_iff_eq_map n.offers_iff

/-- There is one outcome with what is found in a list of entries. -/
theorem findings_iff {entries : List VersionEntry} {f : Negotiated} :
    n.Findings probe entries f ↔ f = n.found probe entries := by
  constructor
  · rintro ⟨hprobe, hservers, hclients, hmatched, _⟩
    rw [forall₂_iff_eq_map (n.describes_iff probe)] at hservers
    rw [offers_clientVersions_iff] at hclients
    cases f
    simp_all [found]
  · rintro rfl
    exact {
      probeUrl := rfl
      servers := (forall₂_iff_eq_map (n.describes_iff probe)).mpr rfl
      clients := offers_clientVersions_iff.mpr rfl
      matched := rfl
      members := fun _ hm => mem_of_matchVersions hm }

end Negotiation

end VersionedApi
