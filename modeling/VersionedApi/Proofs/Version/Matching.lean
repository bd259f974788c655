import VersionedApi.Proofs.Version.Key
import VersionedApi.Proofs.Version.Ranking

/-!
# The chosen pair

`matchVersions_eq_some_iff` says in terms of keys which pair is chosen, for versions of any size:
the highest client that some server can serve, and the highest server for it.  Where keys tell the
components this is the numerically highest compatible pair of the two lists as they were given
(`matchVersions_highest`), although the rankings keep one version of a key only: compatibility is
read off the components, so a version that was replaced leaves an equally compatible one behind.
-/

namespace VersionedApi

namespace ApiVersion

/-- A client of one version can talk to a service of another: the first components are equal and
the client's second component is not above the server's. -/
def Compatible (server client : ApiVersion) : Prop :=
  server.major = client.major ∧ client.minor ≤ server.minor

theorem compatible_iff {server client : ApiVersion} :
    server.compatible client = true ↔ Compatible server client := by
  rw [compatible, Bool.and_eq_true, beq_iff_eq, decide_eq_true_iff]
  exact and_congr_left fun _ => eq_comm

/-- Compatibility is read off the components. -/
theorem Compatible.congr {s s' c c' : ApiVersion} (h : Compatible s c)
    (hs : s'.components = s.components) (hc : c'.components = c.components) : Compatible s' c' := by
  unfold Compatible major minor at h ⊢
  rw [hs, hc]
  exact h

/-- A property of the components that a version of a list has is one that a version of its ranking
has. -/
theorem exists_mem_rank {vs : List ApiVersion} (hvs : ∀ v ∈ vs, v.Narrow) {v : ApiVersion}
    (hv : v ∈ vs) : ∃ w ∈ rank vs, w ∈ vs ∧ w.components = v.components := by
  obtain ⟨w, hw, hkey⟩ := exists_lastBy (f := key) hv
  exact ⟨w, mem_rank_iff.mpr hw, hw.mem, (key_eq_iff (hvs w hw.mem) (hvs v hv)).mp hkey⟩

/-- Where keys tell the components, a ranking holds the last version of all components. -/
theorem mem_rank_iff_components {vs : List ApiVersion} (hvs : ∀ v ∈ vs, v.Narrow)
    {v : ApiVersion} : v ∈ rank vs ↔ LastBy components vs v :=
  mem_rank_iff.trans (lastBy_congr fun a ha b hb => key_eq_iff (hvs a ha) (hvs b hb))

theorem key_le_iff {a b : ApiVersion} (ha : a.Narrow) (hb : b.Narrow) :
    a.key ≤ b.key ↔ ¬ b.components < a.components :=
  not_congr (key_lt_iff hb ha)

end ApiVersion

open ApiVersion

/-! ## The pair by its keys -/

/-- There is no pair only if the rankings hold no compatible one. -/
theorem matchVersions_eq_none_iff {servers clients : List ApiVersion} :
    matchVersions servers clients = none ↔
      ∀ s ∈ rank servers, ∀ c ∈ rank clients, ¬ Compatible s c := by
  rw [matchVersions, List.findSome?_eq_none_iff]
  simp only [Option.map_eq_none_iff, List.find?_eq_none, compatible_iff]
  exact ⟨fun h s hs c hc => h c hc s hs, fun h c hc s hs => h s hs c hc⟩

/-- The search for a client asks only whether some server can serve it, so it is a search by a
property like the search for a server. -/
theorem matchVersions_eq_some_iff_find? {servers clients : List ApiVersion} {m : VersionMatch} :
    matchVersions servers clients = some m ↔
      (rank clients).find? (fun c => (rank servers).any fun s => s.compatible c) =
        some m.client ∧
      (rank servers).find? (fun s => s.compatible m.client) = some m.server := by
  rw [matchVersions]
  induction rank clients with
  | nil => simp
  | cons c cs ih =>
      rw [List.findSome?_cons, List.find?_cons]
      cases hfind : (rank servers).find? (fun s => s.compatible c) with
      | none =>
          have hany : ((rank servers).any fun s => s.compatible c) = false := by
            rw [← Bool.not_eq_true, List.any_eq_true]
            rintro ⟨s, hs, hsc⟩
            exact List.find?_eq_none.mp hfind s hs hsc
          rw [hany]
          exact ih
      | some s =>
          have hany : ((rank servers).any fun s => s.compatible c) = true :=
            List.any_eq_true.mpr ⟨s, List.mem_of_find?_eq_some hfind,
              List.find?_some (p := fun s : ApiVersion => s.compatible c) hfind⟩
          rw [hany]
          constructor
          · intro h
            cases h
            exact ⟨rfl, hfind⟩
          · rintro ⟨hc, hs⟩
            rw [← Option.some.inj hc, hfind] at hs
            rw [Option.map_some, Option.some.inj hs, Option.some.inj hc]

/-- The pair is made of the highest client that some server can serve and of the highest server
for it. -/
theorem matchVersions_eq_some_iff {servers clients : List ApiVersion} {m : VersionMatch} :
    matchVersions servers clients = some m ↔
      (m.client ∈ rank clients ∧
        ∀ c ∈ rank clients, (∃ s ∈ rank servers, Compatible s c) → c.key ≤ m.client.key) ∧
      m.server ∈ rank servers ∧ Compatible m.server m.client ∧
        ∀ s ∈ rank servers, Compatible s m.client → s.key ≤ m.server.key := by
  rw [matchVersions_eq_some_iff_find?, (rank_descending clients).find?_eq_some_iff,
    (rank_descending servers).find?_eq_some_iff]
  simp only [List.any_eq_true, compatible_iff]
  constructor
  · rintro ⟨⟨hc, _, hhighest⟩, hs⟩
    exact ⟨⟨hc, hhighest⟩, hs⟩
  · rintro ⟨⟨hc, hhighest⟩, hs, hcompat, hserver⟩
    exact ⟨⟨hc, ⟨m.server, hs, hcompat⟩, hhighest⟩, hs, hcompat, hserver⟩

/-! ## The pair by its components -/

/-- The numerically highest compatible pair of two lists: the client is the highest that a server
of the list can serve, the server the highest that can serve it, and each is the last of its list
among those with its components. -/
structure HighestPair (servers clients : List ApiVersion) (m : VersionMatch) : Prop where
  /-- No later client has the same components. -/
  client_last : LastBy components clients m.client
  /-- No client that a server can serve is higher. -/
  client_greatest :
    ∀ c ∈ clients, (∃ s ∈ servers, Compatible s c) → ¬ m.client.components < c.components
  /-- No later server has the same components. -/
  server_last : LastBy components servers m.server
  /-- The server can serve the client. -/
  compatible : Compatible m.server m.client
  /-- No server that can serve the client is higher. -/
  server_greatest :
    ∀ s ∈ servers, Compatible s m.client → ¬ m.server.components < s.components

/-- With components of at most three digits the numerically highest compatible pair is chosen, and
no pair only if no two versions of the lists are compatible. -/
theorem matchVersions_highest (servers clients : List ApiVersion)
    (hservers : ∀ s ∈ servers, ∀ n ∈ s.components, n < 1000)
    (hclients : ∀ c ∈ clients, ∀ n ∈ c.components, n < 1000) :
    (matchVersions servers clients = none ↔
      ∀ s ∈ servers, ∀ c ∈ clients, ¬ (s.major = c.major ∧ c.minor ≤ s.minor)) ∧
    ∀ m, matchVersions servers clients = some m ↔ HighestPair servers clients m := by
  have hserver {s : ApiVersion} (hs : s ∈ rank servers) : s ∈ servers ∧ s.Narrow :=
    have hmem := (mem_rank_iff.mp hs).mem
    ⟨hmem, hservers s hmem⟩
  have hclient {c : ApiVersion} (hc : c ∈ rank clients) : c ∈ clients ∧ c.Narrow :=
    have hmem := (mem_rank_iff.mp hc).mem
    ⟨hmem, hclients c hmem⟩
  constructor
  · rw [matchVersions_eq_none_iff]
    constructor
    · intro h s hs c hc hcompat
      obtain ⟨s', hs', _, hsc⟩ := exists_mem_rank hservers hs
      obtain ⟨c', hc', _, hcc⟩ := exists_mem_rank hclients hc
      exact h s' hs' c' hc' (Compatible.congr hcompat hsc hcc)
    · intro h s hs c hc
      exact h s (hserver hs).1 c (hclient hc).1
  · intro m
    rw [matchVersions_eq_some_iff, mem_rank_iff_components hclients,
      mem_rank_iff_components hservers]
    constructor
    · rintro ⟨⟨hc, hcmax⟩, hs, hcompat, hsmax⟩
      refine ⟨hc, fun c hcm ⟨s, hsm, hsc⟩ => ?_, hs, hcompat, fun s hsm hsc => ?_⟩
      · obtain ⟨c', hc', hcm', hcc⟩ := exists_mem_rank hclients hcm
        obtain ⟨s', hs', _, hss⟩ := exists_mem_rank hservers hsm
        rw [← hcc]
        exact (key_le_iff (hclients c' hcm') (hclients _ hc.mem)).mp
          (hcmax c' hc' ⟨s', hs', hsc.congr hss hcc⟩)
      · obtain ⟨s', hs', hsm', hss⟩ := exists_mem_rank hservers hsm
        rw [← hss]
        exact (key_le_iff (hservers s' hsm') (hservers _ hs.mem)).mp
          (hsmax s' hs' (hsc.congr hss rfl))
    · rintro ⟨hc, hcmax, hs, hcompat, hsmax⟩
      refine ⟨⟨hc, fun c hcm ⟨s, hsm, hsc⟩ => ?_⟩, hs, hcompat, fun s hsm hsc => ?_⟩
      · exact (key_le_iff (hclient hcm).2 (hclients _ hc.mem)).mpr
          (hcmax c (hclient hcm).1 ⟨s, (hserver hsm).1, hsc⟩)
      · exact (key_le_iff (hserver hsm).2 (hservers _ hs.mem)).mpr
          (hsmax s (hserver hsm).1 hsc)

/-- The highest client has no server, the next one is listed twice and once with fewer components,
and the server that is chosen replaces one of the same components. -/
theorem matchVersions_highest_replaced :
    let servers := [ofClient "a" "v2.9", ofClient "b" "v3.1.4", ofClient "c" "3.1.4-beta",
      ofClient "d" "3.0.7"]
    let clients := [ofClient "e" "3.1", ofClient "f" "4", ofClient "g" "v3.1.0",
      (ofClient "h" "3.1").withLength 2]
    (∀ s ∈ servers, ∀ n ∈ s.components, n < 1000) ∧
    (∀ c ∈ clients, ∀ n ∈ c.components, n < 1000) ∧
    matchVersions servers clients ≠ none ∧
    HighestPair servers clients ⟨ofClient "c" "3.1.4-beta", ofClient "g" "v3.1.0"⟩ := by
  intro servers clients
  have hservers : ∀ s ∈ servers, ∀ n ∈ s.components, n < 1000 := by decide
  have hclients : ∀ c ∈ clients, ∀ n ∈ c.components, n < 1000 := by decide
  obtain ⟨_, hsome⟩ := matchVersions_highest servers clients hservers hclients
  refine ⟨hservers, hclients, by decide +kernel, (hsome _).mp ?_⟩
  decide +kernel

end VersionedApi
