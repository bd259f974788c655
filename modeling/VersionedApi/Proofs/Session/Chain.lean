import VersionedApi.Proofs.Session.Landing

/-!
# Chains of redirects

What a run comes to, told from the outcomes that the client gives in turn.  The chain of an initial
URL and a sequence of outcomes goes on at a place (`Continues`) if the outcome there redirects, the
policy still allows it and the location it names can be joined to the URL that was asked there
(`hopUrl`).  The run ends at the first place where the chain does not go on, with the outcome of
that place and the redirects before it (`run_playing`).

The invariant is `StandsAt`: what a flight knows at a place of the chain.
-/

namespace VersionedApi

/-- The client that gives the outcomes of a sequence in order, whatever it is asked. -/
def Client.playing (replies : Nat → Except ApiError Response) : Client :=
  fun sent => replies (sent.length - 1)

namespace Flight

section

variable (start : Url) (policy : RedirectPolicy) (replies : Nat → Except ApiError Response)

/-- The URL that is asked at a place of a chain: the first one, then each the place that the
response before it names, seen from the URL that was asked for that response. -/
def hopUrl : Nat → Option Url
  | 0 => some start
  | k + 1 =>
      match hopUrl k, replies k with
      | some url, .ok r => r.location?.bind fun location => (url.join location).toOption
      | _, _ => none

/-- The chain goes on at a place: the outcome is a response that redirects, the policy allows it
there, and the first location it gives is printable and can be joined to the URL asked. -/
def Continues (k : Nat) : Prop :=
  ∃ r value location url next, replies k = .ok r ∧ r.status ∈ [301, 302, 303, 305, 307] ∧
    policy.Allows k ∧ (r.headers.values .location).head? = some value ∧
    value.text? = some location ∧ hopUrl start replies k = some url ∧ url.join location = .ok next

/-- What a flight knows at a place of the chain: how many requests were sent before it, what it is
to ask, how many redirects it is allowed, and the responses before. -/
structure StandsAt (k : Nat) (before : List Request) (f : Flight) : Prop where
  /-- The requests before. -/
  sent : before.length = k
  /-- The URL to ask. -/
  url : hopUrl start replies k = some f.request.url
  /-- The redirects still allowed. -/
  budget : ∀ j, f.budget.Allows j ↔ policy.Allows (k + j)
  /-- The responses before. -/
  history : f.history.map Except.ok = (List.range k).map replies

end

variable {start : Url} {policy : RedirectPolicy} {replies : Nat → Except ApiError Response}
  {k : Nat} {before : List Request} {f : Flight}

/-! ## One place of the chain -/

theorem StandsAt.departure (request : Request) :
    StandsAt request.url policy replies 0 [] ⟨request, policy, []⟩ where
  sent := rfl
  url := rfl
  budget := fun j => by rw [Nat.zero_add]
  history := rfl

/-- The client answers a flight at a place by the outcome of that place. -/
theorem StandsAt.playing (h : StandsAt start policy replies k before f) :
    Client.playing replies (before ++ [f.request]) = replies k := by
  rw [Client.playing, List.length_append, h.sent]
  rfl

/-- At a response the chain goes on exactly if the flight does. -/
theorem StandsAt.continues_iff (h : StandsAt start policy replies k before f) {r : Response}
    (hr : replies k = .ok r) :
    Continues start policy replies k ↔ ∃ next, f.receive r = .onward next := by
  have hallows : policy.Allows k ↔ ∃ budget, f.budget.takeHop = some budget := by
    rw [← Option.isSome_iff_exists, ← Option.ne_none_iff_isSome, Ne,
      RedirectPolicy.takeHop_eq_none_iff, Classical.not_not, h.budget, Nat.add_zero]
  constructor
  · rintro ⟨_, value, location, url, next, hr', hstatus, hallowed, hvalue, htext, hurl, hjoin⟩
    rw [hr] at hr'
    cases hr'
    rw [h.url] at hurl
    cases hurl
    obtain ⟨budget, hbudget⟩ := hallows.mp hallowed
    have hlocation := location?_eq_some_iff.mpr ⟨value, hvalue, htext⟩
    exact ⟨_, receive_eq_onward_iff.mpr ⟨isRedirect_iff.mpr hstatus, budget, next, hbudget,
      target_eq_ok_iff.mpr ⟨location, hlocation, hjoin⟩, rfl⟩⟩
  · rintro ⟨_, hnext⟩
    obtain ⟨hredirect, budget, next, hbudget, htarget, _⟩ := receive_eq_onward_iff.mp hnext
    obtain ⟨location, hlocation, hjoin⟩ := target_eq_ok_iff.mp htarget
    obtain ⟨value, hvalue, htext⟩ := location?_eq_some_iff.mp hlocation
    exact ⟨r, value, location, f.request.url, next, hr, isRedirect_iff.mp hredirect,
      hallows.mpr ⟨budget, hbudget⟩, hvalue, htext, h.url, hjoin⟩

/-- A flight that goes on stands at the next place. -/
theorem StandsAt.onward (h : StandsAt start policy replies k before f) {r : Response}
    {next : Flight} (hr : replies k = .ok r) (hnext : f.receive r = .onward next) :
    StandsAt start policy replies (k + 1) (before ++ [f.request]) next := by
  obtain ⟨_, budget, url, hbudget, htarget, rfl⟩ := receive_eq_onward_iff.mp hnext
  obtain ⟨location, hlocation, hjoin⟩ := target_eq_ok_iff.mp htarget
  constructor
  · rw [List.length_append, h.sent]
    rfl
  · simp only [hopUrl, h.url, hr, hlocation, Option.bind_some, hjoin]
    rfl
  · intro j
    have hstep := RedirectPolicy.allows_takeHop hbudget j
    rw [h.budget, ← Nat.add_assoc, Nat.add_right_comm] at hstep
    exact hstep
  · rw [redirected, List.map_append, h.history, List.range_succ, List.map_append, List.map_singleton,
      List.map_singleton, hr]

/-- Where the chain does not go on, the run ends after one more request with the outcome there. -/
theorem StandsAt.run_of_stop (h : StandsAt start policy replies k before f)
    (hstop : ¬ Continues start policy replies k) (span : Span) (steps : Nat) :
    let t := Flight.run (.playing replies) span (steps + 1) before f
    t.sent = [f.request] ∧
      (∀ r, replies k = .ok r → t.outcome = some (.ok (f.deliver r))) ∧
      ∀ e, replies k = .error e → t.outcome = some (.error e) := by
  have hanswer := h.playing
  cases hr : replies k with
  | error e =>
      rw [hr] at hanswer
      rw [run_of_error hanswer]
      refine ⟨rfl, fun r hr' => (nomatch hr'), fun e' he' => ?_⟩
      cases he'
      rfl
  | ok r =>
      rw [hr] at hanswer
      obtain ⟨hsent, houtcome⟩ := run_of_not_onward hanswer
        fun next hnext => hstop ((h.continues_iff hr).mpr ⟨next, hnext⟩)
      refine ⟨hsent, fun r' hr' => ?_, fun e he => (nomatch he)⟩
      cases hr'
      exact houtcome

/-! ## The whole chain -/

/-- The run of a flight at a place has no end as long as the chain goes on, and ends at the first
place where it does not. -/
theorem StandsAt.run (span : Span) : ∀ (steps : Nat) {k : Nat} {before : List Request}
    {f : Flight}, StandsAt start policy replies k before f →
    let t := Flight.run (.playing replies) span steps before f
    (t.outcome = none ↔ ∀ j, k ≤ j → j < k + steps → Continues start policy replies j) ∧
    ∀ m, k ≤ m → m < k + steps → (∀ j, k ≤ j → j < m → Continues start policy replies j) →
      ¬ Continues start policy replies m →
      t.sent.map (fun q => some q.url) =
        (List.range' k (m + 1 - k)).map (hopUrl start replies) ∧
      (∀ r, replies m = .ok r → ∃ history, t.outcome = some (.ok { r with history }) ∧
        history.map Except.ok = (List.range m).map replies) ∧
      ∀ e, replies m = .error e → t.outcome = some (.error e)
  | 0, k, before, f, _ => by
      refine ⟨⟨fun _ j hj hlt => ?_, fun _ => rfl⟩, fun m hm hlt => ?_⟩
      · exact absurd hlt (Nat.not_lt.mpr hj)
      · exact absurd hlt (Nat.not_lt.mpr hm)
  | steps + 1, k, before, f, h => by
      by_cases hk : Continues start policy replies k
      · obtain ⟨r, _, _, _, _, hr, _⟩ := id hk
        obtain ⟨next, hnext⟩ := (h.continues_iff hr).mp hk
        have hanswer := h.playing
        rw [hr] at hanswer
        rw [run_of_onward hanswer hnext]
        obtain ⟨hnone, hends⟩ := StandsAt.run span steps (h.onward hr hnext)
        constructor
        · rw [hnone]
          constructor
          · intro hall j hj hlt
            rcases Nat.eq_or_lt_of_le hj with rfl | hj
            · exact hk
            · exact hall j hj (by omega)
          · exact fun hall j hj hlt => hall j (by omega) (by omega)
        · intro m hm hlt hbefore hstop
          rcases Nat.eq_or_lt_of_le hm with rfl | hm
          · exact absurd hk hstop
          · obtain ⟨hsent, hend⟩ := hends m hm (by omega)
              (fun j hj => hbefore j (by omega)) hstop
            refine ⟨?_, hend⟩
            rw [show m + 1 - k = (m + 1 - (k + 1)) + 1 by omega, List.range'_succ, List.map_cons,
              List.map_cons, hsent, h.url]
      · obtain ⟨hsent, hresponse, herror⟩ := h.run_of_stop hk span steps
        constructor
        · constructor
          · intro hnone
            cases hr : replies k with
            | ok r => exact absurd (hnone.symm.trans (hresponse r hr)) (by simp)
            | error e => exact absurd (hnone.symm.trans (herror e hr)) (by simp)
          · exact fun hall => absurd (hall k (Nat.le_refl k) (by omega)) hk
        · intro m hm _ hbefore _
          rcases Nat.eq_or_lt_of_le hm with rfl | hm
          · refine ⟨?_, fun r hr => ⟨f.history, hresponse r hr, h.history⟩, herror⟩
            rw [hsent, Nat.add_sub_cancel_left, List.range'_one, List.map_singleton,
              List.map_singleton, h.url]
          · exact absurd (hbefore k (Nat.le_refl k) hm) hk

/-- A request sent under a policy, whose client gives the outcomes of a sequence in turn, has no
answer as long as the chain of redirects goes on.  At the first place `m` where it does not go on
the run ends after `m + 1` requests: with the response of that place and the responses before it
as its history, oldest first, or with the error of that place. -/
theorem run_playing (request : Request) (policy : RedirectPolicy)
    (replies : Nat → Except ApiError Response) (span : Span)
    (hfresh : ∀ k r, replies k = .ok r → r.history = []) (steps : Nat) :
    let t := Flight.run (.playing replies) span steps [] ⟨request, policy, []⟩
    (t.outcome = none ↔ ∀ k < steps, Continues request.url policy replies k) ∧
    ∀ m < steps, (∀ k < m, Continues request.url policy replies k) →
      ¬ Continues request.url policy replies m →
      t.sent.length = m + 1 ∧
      (∀ k ≤ m, (t.sent[k]?).map Request.url = hopUrl request.url replies k) ∧
      (∀ r, replies m = .ok r → ∃ history, t.outcome = some (.ok { r with history }) ∧
        history.map Except.ok = (List.range m).map replies ∧ ∀ h ∈ history, h.history = []) ∧
      ∀ e, replies m = .error e → t.outcome = some (.error e) := by
  have hstart : StandsAt request.url policy replies 0 [] ⟨request, policy, []⟩ :=
    StandsAt.departure request
  obtain ⟨hnone, hends⟩ := hstart.run span steps
  constructor
  · rw [hnone]
    exact ⟨fun h k hk => h k (Nat.zero_le k) (by omega), fun h k _ hk => h k (by omega)⟩
  · intro m hm hbefore hstop
    obtain ⟨hsent, hresponse, herror⟩ := hends m (Nat.zero_le m) (by omega)
      (fun j _ => hbefore j) hstop
    rw [Nat.sub_zero, ← List.range_eq_range'] at hsent
    refine ⟨?_, fun k hk => ?_, fun r hr => ?_, herror⟩
    · have hlength := congrArg List.length hsent
      rw [List.length_map, List.length_map, List.length_range] at hlength
      exact hlength
    · have hplace := congrArg (·[k]?) hsent
      simp only [List.getElem?_map, List.getElem?_range (show k < m + 1 by omega),
        Option.map_some] at hplace
      obtain ⟨q, hq, hurl⟩ := Option.map_eq_some_iff.mp hplace
      rw [hq, ← hurl]
      rfl
    · obtain ⟨history, houtcome, hhistory⟩ := hresponse r hr
      refine ⟨history, houtcome, hhistory, fun h hmem => ?_⟩
      have hmap : Except.ok h ∈ (List.range m).map replies :=
        hhistory ▸ List.mem_map_of_mem hmem
      obtain ⟨j, _, hj⟩ := List.mem_map.mp hmap
      exact hfresh j h hj

/-- Two redirects are followed, one by a relative and one by an absolute location; the third names
a place that is not printable and is the answer. -/
theorem run_playing_unprintable :
    let url : Url := ⟨"http", some { host := some (.name "a") }, .rooted ["x", "y"], none, none⟩
    let request : Request := ⟨"GET", url, .empty, none, .enabled, none, false⟩
    let hop (status : Nat) (location : String) : Response :=
      ⟨status, .ofList [(.location, { bytes := Utf8.encode location })], url, .buffered [], []⟩
    let replies : Nat → Except ApiError Response
      | 0 => .ok (hop 302 "z?q")
      | 1 => .ok (hop 307 "http://b/")
      | _ => .ok (hop 303 "é")
    let t := Flight.run (.playing replies) ⟨none⟩ 5 [] ⟨request, .limit 9, []⟩
    (∀ k r, replies k = .ok r → r.history = []) ∧ t.sent.length = 3 ∧
      t.outcome = some (.ok
        { hop 303 "é" with history := [hop 302 "z?q", hop 307 "http://b/"] }) := by
  intro url request hop replies t
  have hfresh : ∀ k r, replies k = .ok r → r.history = [] := by
    intro k r hr
    rcases k with _ | _ | k <;> cases hr <;> rfl
  obtain ⟨_, hends⟩ := run_playing request (.limit 9) replies ⟨none⟩ hfresh 5
  have hgoes : ∀ k < 2, Continues url (.limit 9) replies k := by
    intro k hk
    rcases k with _ | _ | k
    · exact ⟨hop 302 "z?q", { bytes := Utf8.encode "z?q" }, "z?q", url,
        ⟨"http", some { host := some (.name "a") }, .rooted ["x", "z"], some "q", none⟩, rfl,
        by decide, by decide, by decide +kernel, by decide +kernel, rfl, by decide +kernel⟩
    · exact ⟨hop 307 "http://b/", { bytes := Utf8.encode "http://b/" }, "http://b/",
        ⟨"http", some { host := some (.name "a") }, .rooted ["x", "z"], some "q", none⟩,
        ⟨"http", some { host := some (.name "b") }, .rooted [""], none, none⟩, rfl,
        by decide, by decide, by decide +kernel, by decide +kernel, by decide +kernel,
        by decide +kernel⟩
    · omega
  have hstays : ¬ Continues url (.limit 9) replies 2 := by
    rintro ⟨r, value, location, _, _, hr, _, _, hvalue, htext, _⟩
    cases hr
    have : value = { bytes := Utf8.encode "é" } := by
      rw [← Option.some.inj hvalue]
    have hunprintable : ({ bytes := Utf8.encode "é" } : HeaderValue).text? = none := by
      decide +kernel
    rw [this, hunprintable] at htext
    cases htext
  obtain ⟨hlength, _, hresponse, _⟩ := hends 2 (by decide) hgoes hstays
  obtain ⟨history, houtcome, hhistory, _⟩ := hresponse (hop 303 "é") rfl
  have hpast : history = [hop 302 "z?q", hop 307 "http://b/"] :=
    (List.map_inj_right fun _ _ => Except.ok.inj).mp hhistory
  exact ⟨hfresh, hlength, hpast ▸ houtcome⟩

end Flight

end VersionedApi
