import CallGuard.Proofs.Retry.Plan
import CallGuard.Proofs.Retry.Policy

/-! What the end of a scope does to a run, by a plan or by a policy. It is looked at before
each attempt and awaited in each wait, and never while an attempt is under way. So a run is
that in a scope without end, or it is cut short before an attempt of it: at once, or in the
wait before that attempt, at the first alarm of the scope. -/

namespace CallGuard.Retry

variable {ε α : Type}

/-- What an operation comes to, and when, does not depend on the scope. -/
def Operation.Steady (op : Operation ε α) : Prop :=
  ∀ k scope now, (op k scope now).outcome = (op k {} now).outcome ∧
    (op k scope now).now = (op k {} now).now

/-- An operation in a scope that it leaves without end. -/
def Operation.background (op : Operation ε α) : Operation ε α := fun k _ now =>
  { op k {} now with scope := {} }

/-- A run makes the first attempts of another, and comes to the same if it makes all of them
and else is cancelled. -/
structure Run.CutOf (r b : Run ε α) : Prop where
  attempts : r.attempts <+: b.attempts
  result : (r.result = b.result ∧ r.attempts = b.attempts) ∨
    ∃ e, r.result = .error (.cancelled e)

namespace Series

variable {s : Series ε α} {r b : Run ε α}

/-! ### In a scope without end -/

/-- The attempts in a scope without end. -/
def background (s : Series ε α) : Series ε α :=
  ⟨s.rule, Operation.background s.op, {}, s.now⟩

/-- If an attempt starts when it does in a scope without end, then it comes to the same and
ends at the same time. -/
theorem attempt_background_of_start (steady : Operation.Steady s.op) {k : Nat}
    (h : s.background.start k = ({}, (s.start k).2)) :
    (s.background.attempt k).outcome = (s.attempt k).outcome ∧
      (s.background.attempt k).now = (s.attempt k).now := by
  obtain ⟨outcome, now⟩ := steady k (s.start k).1 (s.start k).2
  rw [attempt, attempt, h, outcome, now]
  exact ⟨rfl, rfl⟩

theorem start_background (steady : Operation.Steady s.op) (k : Nat) :
    s.background.start k = ({}, (s.start k).2) := by
  induction k with
  | zero => rfl
  | succ k ih =>
    obtain ⟨outcome, now⟩ := attempt_background_of_start steady ih
    rw [start_succ, start_succ, verdict, verdict, outcome, now]
    rfl

theorem attempt_background (steady : Operation.Steady s.op) (k : Nat) :
    (s.background.attempt k).outcome = (s.attempt k).outcome ∧
      (s.background.attempt k).now = (s.attempt k).now :=
  attempt_background_of_start steady (start_background steady k)

theorem verdict_background (steady : Operation.Steady s.op) (k : Nat) :
    s.background.verdict k = s.verdict k := by
  rw [verdict, verdict, (attempt_background steady k).1]
  rfl

theorem times_background (steady : Operation.Steady s.op) (k : Nat) :
    s.background.times k = s.times k := by
  rw [times, times, start_background steady, (attempt_background steady k).2]

/-- A run in a scope without end settles. -/
theorem background_settles (h : Loop s.rule (Operation.background s.op) 0 {} s.now b) :
    ∃ m signals, s.background.Makes 0 m b ∧
      s.background.verdict m = .settled b.result signals := by
  rcases run_of_loop (s := s.background) h with ⟨e, ended, -⟩ | ⟨m, hm⟩
  · cases ended
  · cases hm.ends with
    | settled verdict => exact ⟨m, _, hm, verdict⟩
    | @halted _ _ e verdict wakes =>
      have rings : Scope.alarm? {} (s.background.attempt m).now e = some b.now := wakes.rings
      cases e <;> cases rings

/-- The run in any scope is one in a scope without end, or cut short. -/
theorem cutOf (steady : Operation.Steady s.op) (h : Loop s.rule s.op 0 s.scope s.now r)
    (hb : Loop s.rule (Operation.background s.op) 0 {} s.now b) : r.CutOf b := by
  obtain ⟨m, signals, hm, hv⟩ := background_settles hb
  rcases run_of_loop h with ⟨e, -, rfl⟩ | ⟨n, hn⟩
  · exact ⟨List.nil_prefix, .inr ⟨e, rfl⟩⟩
  have hle : n ≤ m := by
    refine Nat.le_of_not_lt fun hlt => ?_
    have hw := hn.waits m (Nat.zero_le m) hlt
    rw [← verdict_background steady, hv] at hw
    cases hw
  have hr : r.attempts = (List.range (n + 1)).map s.background.times := by
    rw [hn.attempts_eq, funext (times_background steady)]
  refine ⟨?_, ?_⟩
  · have hrange : List.range (m + 1) =
        List.range (n + 1) ++ (List.range (m - n)).map (n + 1 + ·) := by
      rw [← List.range_add]
      congr 1
      omega
    rw [hr, hm.attempts_eq, hrange, List.map_append]
    exact List.prefix_append _ _
  · cases hn.ends with
    | halted _ _ _ result => exact .inr ⟨_, result⟩
    | settled verdict =>
      rw [← verdict_background steady] at verdict
      obtain rfl | hlt := Nat.eq_or_lt_of_le hle
      · have hres := (Verdict.settled.inj (verdict.symm.trans hv)).1
        exact .inl ⟨hres, hr.trans hm.attempts_eq.symm⟩
      · have hw := hm.waits n (Nat.zero_le n) hlt
        rw [verdict] at hw
        cases hw

/-! ### In a scope that ends -/

/-- A run heeds the end of its scope, given the attempts that it would make. -/
structure Heeds (s : Series ε α) (r : Run ε α) : Prop where
  /-- In a scope that is over there is no attempt. -/
  atOnce : ∀ e, s.scope.error? s.now = some e → r = .stopped e s.scope s.now
  begins : s.scope.error? s.now = none → 0 < r.count
  attempts : r.attempts = (List.range r.count).map s.times
  /-- No attempt starts once the scope is over. -/
  live : ∀ k < r.count, s.LiveAt k
  /-- A verdict that settles the run does, whatever has become of the scope meanwhile. -/
  settled : ∀ k < r.count, ∀ result signals, s.verdict k = .settled result signals →
    r.count = k + 1 ∧ r.result = result ∧ r.now = (s.attempt k).now
  /-- A wait is cut short by the first alarm of a scope that is over by the end of it. -/
  interrupted : ∀ k < r.count, ∀ delay signals, s.verdict k = .wait delay signals →
    (s.attempt k).scope.error? (Instant.sleepEnd (s.attempt k).now delay) ≠ none →
      r.count = k + 1 ∧ r.now ≤ Instant.sleepEnd (s.attempt k).now delay ∧
        ∃ e, r.result = .error (.cancelled e) ∧
          (s.attempt k).scope.Wakes (s.attempt k).now r.now e
  /-- After any other wait there is another attempt. -/
  undisturbed : ∀ k < r.count, ∀ delay signals, s.verdict k = .wait delay signals →
    (s.attempt k).scope.error? (Instant.sleepEnd (s.attempt k).now delay) = none →
      k + 1 < r.count
  /-- The reason told for the end of the scope is one that has come. -/
  named : ∀ e, r.result = .error (.cancelled e) → r.scope.Over e r.now

/-- No verdict of a series is that the run is cancelled. -/
def NeverCancels (s : Series ε α) : Prop :=
  ∀ k e signals, s.verdict k ≠ .settled (.error (.cancelled e)) signals

theorem stopped_heeds {e : ContextError} (ended : s.scope.error? s.now = some e) :
    s.Heeds (.stopped e s.scope s.now) where
  atOnce e' he := by
    rw [ended] at he
    cases he
    rfl
  begins he := by
    rw [ended] at he
    cases he
  attempts := rfl
  live k hk := absurd hk (Nat.not_lt_zero k)
  settled k hk := absurd hk (Nat.not_lt_zero k)
  interrupted k hk := absurd hk (Nat.not_lt_zero k)
  undisturbed k hk := absurd hk (Nat.not_lt_zero k)
  named e' he := by
    cases he
    exact Scope.over_of_error? ended

/-- A wait between two attempts of a run has left the scope alive. -/
theorem Makes.live_after {k n : Nat} {delay : Duration} {signals : List Signal}
    (h : s.Makes 0 n r) (hk : k < n) (hv : s.verdict k = .wait delay signals) :
    (s.attempt k).scope.error? (Instant.sleepEnd (s.attempt k).now delay) = none := by
  have live := h.live (k + 1) (Nat.zero_le _) hk
  rw [LiveAt, start_succ, hv] at live
  exact live

/-- Only the verdict on the last attempt of a run may be other than to wait. -/
theorem Makes.eq_of_settled {k n : Nat} {result : Except (RetryError ε) α}
    {signals : List Signal} (h : s.Makes 0 n r) (hk : k < n + 1)
    (hv : s.verdict k = .settled result signals) : k = n := by
  rcases Nat.lt_succ_iff_lt_or_eq.1 hk with hlt | heq
  · have hw := h.waits k (Nat.zero_le k) hlt
    rw [hv] at hw
    cases hw
  · exact heq

theorem Makes.heeds {n : Nat} (never : s.NeverCancels) (h : s.Makes 0 n r) : s.Heeds r where
  atOnce e ended := by
    have live : s.scope.error? s.now = none := h.live 0 (Nat.le_refl 0) (Nat.zero_le n)
    rw [ended] at live
    cases live
  begins _ := by rw [h.count]; exact Nat.succ_pos n
  attempts := by rw [h.count, h.attempts_eq]
  live k hk := h.live k (Nat.zero_le k) (by rw [h.count] at hk; omega)
  settled k hk result signals hv := by
    rw [h.count] at hk ⊢
    obtain rfl := h.eq_of_settled hk hv
    cases h.ends with
    | settled verdict now => exact ⟨rfl, (Verdict.settled.inj (verdict.symm.trans hv)).1, now⟩
    | halted verdict => cases verdict.symm.trans hv
  interrupted k hk delay signals hv ended := by
    rw [h.count] at hk ⊢
    obtain rfl : k = n := by
      rcases Nat.lt_succ_iff_lt_or_eq.1 hk with hlt | heq
      · exact absurd (h.live_after hlt hv) ended
      · exact heq
    cases h.ends with
    | settled verdict => cases verdict.symm.trans hv
    | halted verdict wakes within result =>
      cases verdict.symm.trans hv
      exact ⟨rfl, within, _, result, wakes⟩
  undisturbed k hk delay signals hv live := by
    rw [h.count] at hk ⊢
    rcases Nat.lt_succ_iff_lt_or_eq.1 hk with hlt | rfl
    · exact Nat.succ_lt_succ hlt
    cases h.ends with
    | settled verdict => cases verdict.symm.trans hv
    | halted verdict wakes within =>
      cases verdict.symm.trans hv
      exact absurd (wakes.ended.mono within) (Scope.error?_eq_none_iff.1 live _)
  named e he := by
    cases h.ends with
    | settled verdict =>
      rw [he] at verdict
      exact absurd verdict (never n e _)
    | halted _ wakes _ result scope =>
      rw [he] at result
      cases result
      rw [scope]
      exact wakes.ended

theorem heeds (never : s.NeverCancels) (h : Loop s.rule s.op 0 s.scope s.now r) : s.Heeds r := by
  rcases run_of_loop h with ⟨e, ended, rfl⟩ | ⟨n, hn⟩
  · exact stopped_heeds ended
  · exact hn.heeds never

end Series

/-! ### By plan and by policy -/

/-- The outcome of an attempt made is that of the run where a plan does not wait after it. -/
structure Plan.Returns (p : Plan) (c : Classifier ε) (s : Series ε α) (r : Run ε α) : Prop where
  value : ∀ k < r.count, ∀ v, (s.attempt k).outcome = .ok v → r.count = k + 1 ∧ r.result = .ok v
  terminal : ∀ k < r.count, ∀ e, (s.attempt k).outcome = .error e → c.retries e = false →
    r.count = k + 1 ∧ r.result = .error (.terminal e)
  exhausted : ∀ k < r.count, k + 1 = p.attempts → ∀ e, (s.attempt k).outcome = .error e →
    c.retries e = true → r.count = k + 1 ∧ r.result = .error (.exhausted p.attempts e)

/-- The outcome of an attempt made is that of the run where a policy does not wait after it. -/
structure Policy.Returns (p : Policy ε) (s : Series ε α) (r : Run ε α) : Prop where
  value : ∀ k < r.count, ∀ v, (s.attempt k).outcome = .ok v → r.count = k + 1 ∧ r.result = .ok v
  terminal : ∀ k < r.count, ∀ e, (s.attempt k).outcome = .error e →
    p.retries e (Policy.number k) = false → r.count = k + 1 ∧ r.result = .error (.terminal e)

section

variable {s : Series ε α} {r : Run ε α}

theorem Plan.neverCancels {p : Plan} {pick : Nat → Backoff.Sampler} {c : Classifier ε}
    (hs : s.rule = p.rule pick c) : s.NeverCancels := by
  intro k e signals hv
  rcases Plan.settled_cases hs hv with ⟨v, -, hr, -⟩ | ⟨e', text, -, -, hr, -⟩ |
    ⟨e', text, -, -, -, hr, -⟩
  · cases hr
  · cases hr
  · cases hr

theorem Plan.returns {p : Plan} {pick : Nat → Backoff.Sampler} {c : Classifier ε}
    (hs : s.rule = p.rule pick c) (h : s.Heeds r) : p.Returns c s r where
  value k hk _ ho :=
    have settled := h.settled k hk _ _ (Plan.verdict_value hs ho)
    ⟨settled.1, settled.2.1⟩
  terminal k hk _ ho declined :=
    have settled := h.settled k hk _ _ (Plan.verdict_terminal hs ho declined)
    ⟨settled.1, settled.2.1⟩
  exhausted k hk last e ho accepted := by
    have settled := h.settled k hk _ _
      (Plan.verdict_exhausted hs ho accepted (Nat.le_of_eq last.symm))
    rw [last] at settled ⊢
    exact ⟨settled.1, settled.2.1⟩

theorem Policy.neverCancels {p : Policy ε} {message : ε → String}
    (hs : s.rule = p.rule message) : s.NeverCancels := by
  intro k e signals hv
  rcases Policy.settled_cases hs hv with ⟨v, -, hr⟩ | ⟨e', -, -, hr⟩
  · cases hr
  · cases hr

theorem Policy.returns {p : Policy ε} {message : ε → String}
    (hs : s.rule = p.rule message) (h : s.Heeds r) : p.Returns s r where
  value k hk _ ho :=
    have settled := h.settled k hk _ _ (Policy.verdict_value hs ho)
    ⟨settled.1, settled.2.1⟩
  terminal k hk _ ho declined :=
    have settled := h.settled k hk _ _ (Policy.verdict_terminal hs ho declined)
    ⟨settled.1, settled.2.1⟩

end

/-- The runs of an operation heed the end of the scope, by any plan and by any policy. -/
structure EndHeeded (op : Operation ε α) (scope : Scope) (now : Instant) : Prop where
  /-- The run by a plan is that in a scope without end, or it is cut short. -/
  plan : ∀ (p : Plan) (pick : Nat → Backoff.Sampler) (c : Classifier ε),
    (p.series pick c op scope now).Heeds (p.run pick c op scope now) ∧
      p.Returns c (p.series pick c op scope now) (p.run pick c op scope now) ∧
      (p.run pick c op scope now).CutOf (p.run pick c (Operation.background op) {} now)
  /-- So is a run by a policy that comes to an end. -/
  policy : ∀ (p : Policy ε) (message : ε → String) (fuel : Nat) (r : Run ε α),
    p.attemptsFrom? message op fuel 0 scope now = some r →
      (p.series message op scope now).Heeds r ∧ p.Returns (p.series message op scope now) r ∧
      ∀ fuel b, p.attemptsFrom? message (Operation.background op) fuel 0 {} now = some b →
        r.CutOf b
  /-- While a run by a policy goes on, so does that in a scope without end, and no attempt
  has started in a scope that was over. -/
  unended : ∀ (p : Policy ε) (message : ε → String) (fuel : Nat),
    p.attemptsFrom? message op fuel 0 scope now = none →
      (∀ k ≤ fuel, (p.series message op scope now).LiveAt k) ∧
      p.attemptsFrom? message (Operation.background op) fuel 0 {} now = none

/-- Whatever an operation comes to, its runs heed the end of the scope. -/
theorem endHeeded (op : Operation ε α) (steady : Operation.Steady op) (scope : Scope)
    (now : Instant) : EndHeeded op scope now where
  plan p pick c := by
    have h : Loop (p.series pick c op scope now).rule op 0 scope now (p.run pick c op scope now) :=
      p.run_loop pick c op scope now
    have heeds := Series.heeds (s := p.series pick c op scope now) (Plan.neverCancels rfl) h
    exact ⟨heeds, Plan.returns rfl heeds,
      Series.cutOf (s := p.series pick c op scope now) steady h (p.run_loop pick c _ {} now)⟩
  policy p message fuel r hr := by
    have h := (p.loop_of_attemptsFrom? message op hr).1
    have heeds := Series.heeds (s := p.series message op scope now) (Policy.neverCancels rfl) h
    refine ⟨heeds, Policy.returns rfl heeds, fun fuel b hb => ?_⟩
    exact Series.cutOf (s := p.series message op scope now) steady h
      (p.loop_of_attemptsFrom? message _ hb).1
  unended p message fuel hnone := by
    have waits := Policy.waits_of_none (s := p.series message op scope now) rfl rfl hnone
    refine ⟨fun k hk => (waits k (Nat.zero_le k) (by omega)).1, ?_⟩
    -- In a scope without end the run would settle on an attempt that is waited after.
    cases hb : p.attemptsFrom? message (Operation.background op) fuel 0 {} now with
    | none => rfl
    | some b =>
      obtain ⟨h, hc⟩ := p.loop_of_attemptsFrom? message _ hb
      obtain ⟨m, signals, hm, hv⟩ :=
        Series.background_settles (s := p.series message op scope now) h
      rw [hm.count] at hc
      have hw := (waits m (Nat.zero_le m) (by omega)).2
      rw [← Series.verdict_background steady, hv] at hw
      cases hw

/-- Attempts that take some time and fail. -/
def failing : Operation Nat String := fun k scope now => ⟨.error k, scope, now + 5000, []⟩

/-- Attempts by the plan with no settings of its own in a scope that is cancelled in the
second wait, before its deadline. -/
def cancelledRun : Run Nat String :=
  Plan.run {} (fun _ => Backoff.Band.middle) ⟨fun _ => true, fun _ => ""⟩ failing
    ⟨some 150000000, some 400000000⟩ 0

theorem endHeeded_second_wait :
    Operation.Steady failing ∧ EndHeeded failing ⟨some 150000000, some 400000000⟩ 0 ∧
      cancelledRun.count = 2 ∧ cancelledRun.now = 150000000 ∧
      cancelledRun.result = .error (.cancelled .canceled) := by
  have steady : Operation.Steady failing := fun _ _ _ => ⟨rfl, rfl⟩
  have all := endHeeded failing steady ⟨some 150000000, some 400000000⟩ 0
  have now : cancelledRun.now = 150000000 := by decide +kernel
  refine ⟨steady, all, by decide +kernel, now, ?_⟩
  obtain ⟨heeds, -, cut⟩ := all.plan {} (fun _ => Backoff.Band.middle) ⟨fun _ => true, fun _ => ""⟩
  have fewer : cancelledRun.attempts ≠ (Plan.run {} (fun _ => Backoff.Band.middle)
      ⟨fun _ => true, fun _ => ""⟩ (Operation.background failing) {} 0).attempts := by
    decide +kernel
  obtain ⟨e, he⟩ := cut.result.resolve_left fun h => fewer h.2
  have ended : cancelledRun.scope.Over e cancelledRun.now := heeds.named e he
  have scope : cancelledRun.scope = ⟨some 150000000, some 400000000⟩ := by decide +kernel
  rw [scope, now] at ended
  obtain ⟨t, ht, hle⟩ := ended
  cases e with
  | canceled => exact he
  | deadlineExceeded =>
    cases ht
    exact absurd hle (by decide)

end CallGuard.Retry
