import VersionedApi.Proofs.Session.Course

/-!
# Budgets

A limit counts the redirects that a run may still follow.  It is counted down by one with each
redirect that is followed and never below zero (`takeHop_limit`), so a run under a limit of `n`
ends within `n + 1` requests whatever the client answers (`outcome_ne_none`).

A run under a more generous policy goes the same way until the limit is spent (`curtails_run`):
both runs are taken together step by step, one redirect allowed less after each, until the limit
allows none and its run ends.  `run_limit` puts this together.
-/

namespace VersionedApi

namespace Flight

variable {client : Client} {span : Span} {steps k : Nat} {before : List Request}
  {f g next : Flight}

/-! ## Hops and policies -/

theorem Hop.takeHop (h : Hop client before f next) : f.budget.takeHop = some next.budget := by
  obtain ⟨r, _, hnext⟩ := h
  obtain ⟨_, _, _, hbudget, _, rfl⟩ := receive_eq_onward_iff.mp hnext
  exact hbudget

theorem Hop.allows_iff (h : Hop client before f next) (j : Nat) :
    next.budget.Allows j ↔ f.budget.Allows (j + 1) :=
  RedirectPolicy.allows_takeHop h.takeHop j

theorem Hop.allows (h : Hop client before f next) : f.budget.Allows 0 := by
  refine Classical.byContradiction fun hnone => ?_
  rw [← RedirectPolicy.takeHop_eq_none_iff, h.takeHop] at hnone
  cases hnone

/-- A flight under another policy goes on in the same way if that policy allows it. -/
theorem Hop.withBudget (h : Hop client before f next) {p : RedirectPolicy} (hallows : p.Allows 0) :
    ∃ left, Hop client before { f with budget := p } { next with budget := left } := by
  obtain ⟨r, hr, hnext⟩ := h
  obtain ⟨hredirect, _, url, _, htarget, rfl⟩ := receive_eq_onward_iff.mp hnext
  cases hleft : p.takeHop with
  | none => exact absurd hallows (p.takeHop_eq_none_iff.mp hleft)
  | some left =>
      refine ⟨left, r, hr, receive_eq_onward_iff.mpr ⟨hredirect, left, url, hleft, htarget, ?_⟩⟩
      rfl

/-! ## The end of a run -/

/-- Further steps change nothing of a run that has come to an end. -/
theorem run_of_ended (hended : (run client span steps before f).outcome ≠ none) (more : Nat) :
    run client span (steps + more) before f = run client span steps before f := by
  induction steps generalizing before f with
  | zero => exact absurd rfl hended
  | succ steps ih =>
      rw [Nat.add_right_comm]
      cases hr : client (before ++ [f.request]) with
      | error e => rw [run_of_error hr, run_of_error hr]
      | ok r =>
          cases hland : f.receive r with
          | final => rw [run_of_final hr hland, run_of_final hr hland]
          | stranded reason => rw [run_of_stranded hr hland, run_of_stranded hr hland]
          | onward next =>
              rw [run_of_onward hr hland] at hended
              rw [run_of_onward hr hland, run_of_onward hr hland, ih hended]

/-- A run that has come to an end has sent a request. -/
theorem sent_ne_nil (hended : (run client span steps before f).outcome ≠ none) :
    (run client span steps before f).sent ≠ [] := by
  cases steps with
  | zero => exact absurd rfl hended
  | succ steps =>
      intro hnil
      have hhead := head?_sent client span steps before f
      rw [hnil] at hhead
      cases hhead

/-- A run ends with more steps than redirects that its policy allows. -/
theorem outcome_ne_none {n : Nat} (hpolicy : ¬ f.budget.Allows n) (hsteps : n < steps) :
    (run client span steps before f).outcome ≠ none := by
  induction steps generalizing n before f with
  | zero => exact absurd hsteps (Nat.not_lt_zero n)
  | succ steps ih =>
      by_cases h : ∃ next, Hop client before f next
      · obtain ⟨next, hnext⟩ := h
        rw [(run_of_hop hnext).2]
        cases n with
        | zero => exact absurd hnext.allows hpolicy
        | succ n => exact ih (mt (hnext.allows_iff n).mp hpolicy) (Nat.lt_of_succ_lt_succ hsteps)
      · simp [(run_of_stop (not_exists.mp h)).2]

/-- Along the course of a run under a limit, the limit left and the redirects followed make up the
limit of the start. -/
theorem budget_of_course {n : UInt32} (hstart : f.budget = .limit n)
    (h : (course client steps before f)[k]? = some g) :
    ∃ left : UInt32, g.budget = .limit left ∧ left.toNat + k = n.toNat := by
  refine course_induction (P := fun k g => ∃ left : UInt32, g.budget = .limit left ∧
    left.toNat + k = n.toNat) ⟨n, hstart, rfl⟩ ?_ h
  rintro k sent g next ⟨left, hleft, hcount⟩ hhop
  have htake := hhop.takeHop
  rw [hleft] at htake
  obtain ⟨fewer, hfewer, hone⟩ := RedirectPolicy.takeHop_limit htake
  exact ⟨fewer, hfewer, by omega⟩

/-! ## Two policies -/

/-- A run that is another one but for the redirects after the first `n`: it sends the first `n + 1`
requests of the other, and comes to the same if the other sends no more. -/
structure Curtails (n : Nat) (tight loose : Trace Response) : Prop where
  /-- The requests. -/
  sent : tight.sent = loose.sent.take (n + 1)
  /-- The outcome. -/
  outcome : ∀ outcome, loose.outcome = some outcome → loose.sent.length ≤ n + 1 →
    tight.outcome = some outcome

/-- Two runs that follow the same redirect. -/
theorem Curtails.of_hop {n : Nat} {f' next' : Flight} (hnext : Hop client before f next)
    (hnext' : Hop client before f' next') (hrequest : f'.request = f.request)
    (h : Curtails n (run client span steps (before ++ [f.request]) next)
      (run client span steps (before ++ [f.request]) next')) :
    Curtails (n + 1) (run client span (steps + 1) before f)
      (run client span (steps + 1) before f') := by
  obtain ⟨hsent, houtcome⟩ := @run_of_hop client span steps before f next hnext
  obtain ⟨hsent', houtcome'⟩ := @run_of_hop client span steps before f' next' hnext'
  rw [hrequest] at hsent' houtcome'
  constructor
  · rw [hsent, hsent', List.take_succ_cons, h.sent]
  · intro outcome hended hlength
    rw [hsent', List.length_cons] at hlength
    rw [houtcome'] at hended
    rw [houtcome]
    exact h.outcome outcome hended (Nat.le_of_succ_le_succ hlength)

/-- A run that does not follow a redirect which another one follows. -/
theorem Curtails.of_spent {f' next' : Flight} (hstop : ∀ next, ¬ Hop client before f next)
    (hnext' : Hop client before f' next') (hrequest : f'.request = f.request) :
    Curtails 0 (run client span (steps + 1) before f) (run client span (steps + 1) before f') := by
  obtain ⟨hsent, _⟩ := run_of_stop hstop
  obtain ⟨hsent', houtcome'⟩ := run_of_hop hnext'
  constructor
  · rw [hsent, hsent', hrequest, List.take_succ_cons, List.take_zero]
  · intro outcome hended hlength
    rw [hsent', List.length_cons] at hlength
    rw [houtcome'] at hended
    have hzero := Nat.le_zero.mp (Nat.le_of_succ_le_succ hlength)
    refine absurd (List.eq_nil_of_length_eq_zero hzero) (sent_ne_nil ?_)
    rw [hended]
    exact Option.some_ne_none outcome

/-- Two runs that end with the same answer. -/
theorem Curtails.of_stop {n : Nat} {p : RedirectPolicy} (hstop : ∀ next, ¬ Hop client before f next)
    (hstop' : ∀ next, ¬ Hop client before { f with budget := p } next) :
    Curtails n (run client span (steps + 1) before f)
      (run client span (steps + 1) before { f with budget := p }) := by
  obtain ⟨hsent, houtcome⟩ := run_of_stop hstop
  obtain ⟨hsent', houtcome'⟩ := run_of_stop hstop'
  constructor
  · rw [hsent, hsent', List.take_succ_cons, List.take_nil]
  · intro outcome hended _
    rw [houtcome, ← hended, houtcome']
    rfl

/-- The run under a policy that allows `n` redirects, and one under a policy that allows at least
these. -/
theorem curtails_run {p : RedirectPolicy} {n : Nat} (htight : ∀ j, f.budget.Allows j ↔ j < n)
    (hloose : ∀ j < n, p.Allows j) :
    Curtails n (run client span steps before f)
      (run client span steps before { f with budget := p }) := by
  induction steps generalizing n p f before with
  | zero => exact ⟨rfl, fun _ h => (nomatch h)⟩
  | succ steps ih =>
      by_cases h : ∃ next, Hop client before f next
      · -- Both flights go on, and either policy allows one redirect less.
        obtain ⟨next, hnext⟩ := h
        obtain ⟨m, rfl⟩ := Nat.exists_eq_add_one.mpr ((htight 0).mp hnext.allows)
        obtain ⟨left, hleft⟩ := hnext.withBudget (hloose 0 m.succ_pos)
        refine .of_hop hnext hleft rfl (ih (fun j => ?_) fun j hj => ?_)
        · exact (hnext.allows_iff j).trans ((htight (j + 1)).trans Nat.succ_lt_succ_iff)
        · exact (hleft.allows_iff j).mpr (hloose (j + 1) (Nat.succ_lt_succ hj))
      · have hstop := not_exists.mp h
        by_cases h' : ∃ next, Hop client before { f with budget := p } next
        · -- Only the generous policy lets the flight go on, so the other one allows nothing.
          obtain ⟨next, hnext⟩ := h'
          obtain rfl : n = 0 := by
            refine Nat.eq_zero_of_not_pos fun hpos => ?_
            obtain ⟨left, hleft⟩ := hnext.withBudget ((htight 0).mpr hpos)
            exact hstop _ hleft
          exact .of_spent hstop hnext rfl
        · exact .of_stop hstop (not_exists.mp h')

/-- Policies that allow nothing are one. -/
theorem run_of_spent {p : RedirectPolicy} (hspent : f.budget.takeHop = none)
    (hspent' : p.takeHop = none) :
    run client span steps before f = run client span steps before { f with budget := p } := by
  have hfinal {g : Flight} (hg : g.budget.takeHop = none) (r : Response) : g.receive r = .final := by
    rw [receive, hg]
    cases r.isRedirect <;> rfl
  cases steps with
  | zero => rfl
  | succ steps =>
      cases hr : client (before ++ [f.request]) with
      | error e => rw [run_of_error hr, run_of_error (f := { f with budget := p }) hr]
      | ok r =>
          rw [run_of_final hr (hfinal hspent r),
            run_of_final (f := { f with budget := p }) hr (hfinal hspent' r)]
          rfl

/-! ## A limit -/

/-- A run under a limit of `n` redirects comes to an end within `n + 1` requests, and further steps
change nothing of it; the limit left is at every flight what remains of `n`.  It sends the first
requests of the run under a higher limit or under none, and comes to the same if that run follows no
more than `n` redirects.  To allow no redirect and to have a limit of zero is the same. -/
theorem run_limit (request : Request) (client : Client) (span : Span) (n m : UInt32)
    (hnm : n ≤ m) :
    let run (policy : RedirectPolicy) (steps : Nat) :=
      Flight.run client span steps [] ⟨request, policy, []⟩
    (∀ steps, n.toNat < steps → (run (.limit n) steps).outcome ≠ none ∧
      run (.limit n) steps = run (.limit n) (n.toNat + 1)) ∧
    (∀ steps, (run (.limit n) steps).sent.length ≤ n.toNat + 1) ∧
    (∀ steps, let flights := course client steps [] ⟨request, .limit n, []⟩
      (run (.limit n) steps).sent = flights.map Flight.request ∧
      ∀ k f, flights[k]? = some f → ∃ left : UInt32, f.budget = .limit left ∧
        left.toNat + k = n.toNat ∧
        ∀ rest, f.budget.takeHop = some rest →
          ∃ fewer : UInt32, rest = .limit fewer ∧ fewer.toNat + 1 = left.toNat) ∧
    (∀ policy, policy = .limit m ∨ policy = .unlimited → ∀ steps,
      (run (.limit n) steps).sent <+: (run policy steps).sent ∧
      ∀ outcome, (run policy steps).outcome = some outcome →
        (run policy steps).sent.length ≤ n.toNat + 1 →
        (run (.limit n) steps).outcome = some outcome) ∧
    ∀ steps, run .never steps = run (.limit 0) steps := by
  intro run
  have hself (steps : Nat) : Curtails n.toNat (run (.limit n) steps) (run (.limit n) steps) :=
    curtails_run (fun _ => Iff.rfl) fun _ hj => hj
  have hallows (policy : RedirectPolicy) (hpolicy : policy = .limit m ∨ policy = .unlimited)
      (j : Nat) (hj : j < n.toNat) : policy.Allows j := by
    rcases hpolicy with rfl | rfl
    · exact Nat.lt_of_lt_of_le hj (UInt32.le_iff_toNat_le.mp hnm)
    · trivial
  refine ⟨fun steps hsteps => ?_, fun steps => ?_, fun steps => ⟨?_, fun k f hf => ?_⟩,
    fun policy hpolicy steps => ?_, fun steps => run_of_spent rfl rfl⟩
  · have hended (steps : Nat) (h : n.toNat < steps) : (run (.limit n) steps).outcome ≠ none :=
      outcome_ne_none (Nat.lt_irrefl n.toNat) h
    obtain ⟨more, rfl⟩ := Nat.exists_eq_add_of_le hsteps
    exact ⟨hended _ hsteps, run_of_ended (hended _ (Nat.lt_succ_self _)) more⟩
  · rw [(hself steps).sent]
    exact List.length_take_le _ _
  · exact sent_eq_map_course _ _ _ _ _
  · obtain ⟨left, hleft, hcount⟩ := budget_of_course rfl hf
    refine ⟨left, hleft, hcount, fun rest hrest => ?_⟩
    rw [hleft] at hrest
    exact RedirectPolicy.takeHop_limit hrest
  · have h : Curtails n.toNat (run (.limit n) steps) (run policy steps) :=
      curtails_run (fun _ => Iff.rfl) (hallows policy hpolicy)
    refine ⟨?_, h.outcome⟩
    rw [h.sent]
    exact List.take_prefix _ _

/-- The client redirects for ever, and a limit of one redirect ends that. -/
theorem run_limit_for_ever :
    let url : Url := ⟨"http", some { host := some (.name "a") }, .rooted [""], none, none⟩
    let request : Request := ⟨"GET", url, .empty, none, .enabled, none, false⟩
    let hop : Response :=
      ⟨302, .ofList [(.location, { bytes := Utf8.encode "http://a/" })], url, .buffered [], []⟩
    let client : Client := fun _ => .ok hop
    let run (policy : RedirectPolicy) (steps : Nat) :=
      Flight.run client ⟨none⟩ steps [] ⟨request, policy, []⟩
    (1 : UInt32) ≤ 3 ∧ (∀ steps, (run .unlimited steps).outcome = none) ∧
      (run (.limit 1) 9).outcome ≠ none ∧ (run (.limit 1) 9).sent.length ≤ 2 ∧
      (run (.limit 1) 9).sent <+: (run (.limit 3) 9).sent ∧
      (run (.limit 1) 9).sent <+: (run .unlimited 9).sent ∧
      run .never 9 = run (.limit 0) 9 := by
  intro url request hop client run
  have htarget : target url hop = .ok url := by decide +kernel
  have hnext (before : List Request) (history : List Response) :
      Hop client before ⟨request, .unlimited, history⟩
        ⟨request, .unlimited, history ++ [hop]⟩ :=
    ⟨hop, rfl, receive_eq_onward_iff.mpr ⟨rfl, .unlimited, url, rfl, htarget, rfl⟩⟩
  have hforever (steps : Nat) : ∀ before history,
      (Flight.run client ⟨none⟩ steps before ⟨request, .unlimited, history⟩).outcome = none := by
    induction steps with
    | zero => exact fun _ _ => rfl
    | succ steps ih =>
        intro before history
        rw [(run_of_hop (hnext before history)).2]
        exact ih _ _
  obtain ⟨hends, hlength, _, hfirst, hnever⟩ := run_limit request client ⟨none⟩ 1 3 (by decide)
  exact ⟨by decide, fun steps => hforever steps [] [], (hends 9 (by decide)).1, hlength 9,
    (hfirst _ (Or.inl rfl) 9).1, (hfirst _ (Or.inr rfl) 9).1, hnever 9⟩

end Flight

end VersionedApi
