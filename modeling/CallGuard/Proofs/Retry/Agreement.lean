import CallGuard.Proofs.Journal
import CallGuard.Proofs.Retry.Attempts
import CallGuard.Proofs.Retry.Nested
import CallGuard.Proofs.Retry.Policy
import CallGuard.Retry.Policy

/-! Plans and schedules of the same number of attempts agree. A plan counts its attempts from one
and compares with the number of attempts, of which it has one at least; a schedule counts from
zero, and asks whether the next number is below. Both ask for a wait after just the same outcomes
(`Plan.waits_iff`, `Policy.waits_iff_of_schedules`), whatever the waits are. So their runs of the
same outcomes settle on the same attempt (`Series.Makes.last_eq`) and come to the same, but for
the name of an error worth another attempt that comes last (`schedules_agree`). -/

namespace CallGuard.Retry

variable {ε α : Type}

/-- What an operation comes to in each attempt, whatever the scope and the time. -/
def Operation.Yields (op : Operation ε α) (outcomes : Nat → Except ε α) : Prop :=
  ∀ k scope now, (op k scope now).outcome = outcomes k

/-- An exponential or a linear schedule of so many attempts, whatever its delays. -/
inductive Policy.Schedules (n : UInt32) (fault : ε → Fault) : Policy ε → Prop
  | exponential (x : Backoff.Exponential) (pick : Nat → Backoff.Sampler)
      (attempts : x.maxAttempts = n) : Schedules n fault (.exponential x pick fault)
  | linear (x : Backoff.Linear) (attempts : x.maxAttempts = n) :
      Schedules n fault (.linear x fault)

/-! ### The rule of a schedule -/

/-- The counter of attempts tells whether one is left, also where it stops. -/
theorem attemptsLeft_number_iff (n : UInt32) (k : Nat) :
    Backoff.attemptsLeft n (Policy.number k) = true ↔ k + 1 < max 1 n.toNat := by
  have hn := n.toNat_lt_size
  rw [Backoff.attemptsLeft, decide_eq_true_iff, Backoff.nextAttempt, Policy.number]
  omega

namespace Policy

variable {policy : Policy ε} {n : UInt32} {fault : ε → Fault} {message : ε → String}
  {s : Series ε α} {k : Nat}

theorem Schedules.retries (h : policy.Schedules n fault) (e : ε) (k : Nat) :
    policy.retries e k = (Backoff.attemptsLeft n k && (fault e).isRetryable) := by
  cases h with
  | exponential x pick attempts => rw [← attempts]; rfl
  | linear x attempts => rw [← attempts]; rfl

/-- A schedule asks for a wait after the same outcomes as a plan of as many attempts. -/
theorem waits_iff_of_schedules (h : policy.Schedules n fault) (hs : s.rule = policy.rule message)
    (k : Nat) :
    (s.verdict k).waits = true ↔ s.Retried (.ofFault fault) k ∧ k + 1 < max 1 n.toNat := by
  unfold Series.Retried Classifier.ofFault
  cases ho : (s.attempt k).outcome with
  | ok v => simp [verdict_value hs ho, Verdict.waits]
  | error e =>
    have hr := h.retries e (number k)
    rw [← attemptsLeft_number_iff]
    cases hp : policy.retries e (number k) with
    | true =>
      rw [hp, eq_comm, Bool.and_eq_true] at hr
      simp [verdict_wait hs ho hp, Verdict.waits, hr.1, hr.2]
    | false =>
      rw [hp, eq_comm, Bool.and_eq_false_iff] at hr
      rcases hr with hr | hr <;> simp [verdict_terminal hs ho hp, Verdict.waits, hr]

/-- A run by a schedule always comes to an end. -/
theorem isSome_run_of_schedules (h : policy.Schedules n fault) (message : ε → String)
    (op : Operation ε α) (scope : Scope) (now : Instant) :
    ∃ r, policy.run? message op scope now = some r := by
  cases hr : policy.run? message op scope now with
  | some r => exact ⟨r, rfl⟩
  | none =>
    -- It would wait after an attempt whose number is beyond the range.
    have waits := (waits_of_none (s := policy.series message op scope now) rfl rfl hr
      UInt32.size (Nat.zero_le _) (by omega)).2
    have left := ((waits_iff_of_schedules h rfl _).1 waits).2
    have hn := n.toNat_lt_size
    omega

end Policy

/-! ### What is counted -/

/-- What an attempt adds to a counter of attempts, given whether it has a value. -/
def counted (outcome : String) (ok : Bool) : Nat :=
  if outcome = (if ok then "success" else "failure") then 1 else 0

theorem count_succeeded (t : Instant) (outcome : String) :
    (Journal.stamp t [.succeeded]).count (.attempt outcome) = counted outcome true := by
  rw [Journal.count_stamp]
  simp [Signal.counter?, Counter.attempt, counted, eq_comm]

/-- Nothing else that is told of a failure is counted as an attempt. -/
theorem count_failed (t : Instant) (outcome : String) {signal : Signal}
    (hs : signal.counter? = none ∨ signal.counter? = some .exhaustion) :
    (Journal.stamp t [.failed, signal]).count (.attempt outcome) = counted outcome false := by
  have hrest : (Journal.stamp t [signal]).count (.attempt outcome) = 0 := by
    rw [Journal.count_stamp]
    rcases hs with hs | hs <;> simp [hs, Counter.exhaustion, Counter.attempt]
  show (Journal.stamp t [.failed] ++ Journal.stamp t [signal]).count _ = _
  rw [Journal.count_append, hrest, Journal.count_stamp]
  simp [Signal.counter?, Counter.attempt, counted, eq_comm]

section

variable {p : Plan} {pick : Nat → Backoff.Sampler} {policy : Policy ε} {message : ε → String}
  {s s' : Series ε α} {c : Classifier ε}

theorem Plan.count_told (hs : s.rule = p.rule pick c) (outcome : String) (k : Nat) :
    (s.told k).count (.attempt outcome) = counted outcome (s.attempt k).outcome.isOk := by
  have h := judged hs k
  rw [Series.told]
  generalize (s.attempt k).outcome = o at h ⊢
  generalize s.verdict k = v at h ⊢
  cases h with
  | value v => exact count_succeeded _ outcome
  | terminal e declined => exact count_failed _ outcome (.inl rfl)
  | exhausted e accepted last => exact count_failed _ outcome (.inr rfl)
  | wait e accepted left => exact count_failed _ outcome (.inl rfl)

theorem Policy.count_told (hs : s.rule = policy.rule message) (outcome : String) (k : Nat) :
    (s.told k).count (.attempt outcome) = counted outcome (s.attempt k).outcome.isOk := by
  rw [Series.told]
  cases ho : (s.attempt k).outcome with
  | ok v =>
    rw [verdict_value hs ho]
    exact count_succeeded _ outcome
  | error e =>
    cases hr : policy.retries e (number k) with
    | true =>
      rw [verdict_wait hs ho hr]
      exact count_failed _ outcome (.inl rfl)
    | false =>
      rw [verdict_terminal hs ho hr]
      exact count_failed _ outcome (.inl rfl)

end

namespace Series

variable {s s' : Series ε α} {r r' : Run ε α} {n n' : Nat}

theorem count_own {c : Counter} (told : ∀ k, (s'.told k).count c = (s.told k).count c) (n : Nat) :
    (s'.own n).count c = (s.own n).count c := by
  induction n with
  | zero => rfl
  | succ n ih =>
    simp only [own] at ih
    simp only [own, List.range_succ, List.flatMap_append, List.flatMap_singleton,
      Journal.count_append, ih, told]

/-! ### Two runs of the same outcomes -/

/-- Runs that wait after the same attempts have the same last attempt. -/
theorem Makes.last_eq (h : s.Makes 0 n r) (h' : s'.Makes 0 n' r')
    (same : ∀ k, (s'.verdict k).waits = (s.verdict k).waits)
    (settled : (s.verdict n).waits = false) (settled' : (s'.verdict n').waits = false) :
    n' = n := by
  rcases Nat.lt_trichotomy n' n with hlt | heq | hgt
  · rw [same, h.waits n' (Nat.zero_le _) hlt] at settled'
    cases settled'
  · exact heq
  · rw [← same, h'.waits n (Nat.zero_le _) hgt] at settled
    cases settled

end Series

/-- How two runs agree, the first by a plan of some attempts and the second by a schedule. -/
structure Agree (attempts : Nat) (c : Classifier ε) (s s' : Series ε α) (r r' : Run ε α) :
    Prop where
  /-- The operation is called as often by both. -/
  count : r'.count = r.count
  count_pos : 0 < r.count
  count_le : r.count ≤ attempts
  /-- Both come to the same value or to the same error not worth another attempt, or the attempts
  of the plan are used up, and the schedule comes to the last error. -/
  result : (∃ v, r.result = .ok v ∧ r'.result = .ok v) ∨
    (∃ e, c.retries e = false ∧ r.result = .error (.terminal e) ∧
      r'.result = .error (.terminal e)) ∨
    ∃ e, c.retries e = true ∧ r.count = attempts ∧ r.result = .error (.exhausted attempts e) ∧
      r'.result = .error (.terminal e)
  /-- The attempts of the plan are used up just if the schedule comes to an error worth another. -/
  exhausted_iff : ∀ e, r.result = .error (.exhausted attempts e) ↔
    r'.result = .error (.terminal e) ∧ c.retries e = true
  /-- Either counter of attempts goes up by as much, attempts within attempts apart. -/
  counters : ∀ outcome, ∃ more,
    r.journal.count (.attempt outcome) = (s.inner r.count).count (.attempt outcome) + more ∧
      r'.journal.count (.attempt outcome) = (s'.inner r.count).count (.attempt outcome) + more
  /-- The numbers of the attempts stay below the largest of their range. -/
  unsaturated : ∀ k < r.count, Policy.number k = k ∧ Backoff.nextAttempt k = k + 1

section

variable {p : Plan} {pick : Nat → Backoff.Sampler} {policy : Policy ε} {fault : ε → Fault}
  {message : ε → String} {s s' : Series ε α} {r r' : Run ε α} {n : Nat} {c : Classifier ε}

/-- What two runs come to that settle on the same attempt. -/
theorem result_of_settled_both (hs : s.rule = p.rule pick c) (hs' : s'.rule = policy.rule message)
    (same : (s'.attempt n).outcome = (s.attempt n).outcome) (hn : n < p.attempts)
    {signals signals' : List Signal} (hv : s.verdict n = .settled r.result signals)
    (hv' : s'.verdict n = .settled r'.result signals') :
    (∃ v, r.result = .ok v ∧ r'.result = .ok v) ∨
      (∃ e, c.retries e = false ∧ r.result = .error (.terminal e) ∧
        r'.result = .error (.terminal e)) ∨
      ∃ e, c.retries e = true ∧ n + 1 = p.attempts ∧
        r.result = .error (.exhausted p.attempts e) ∧ r'.result = .error (.terminal e) := by
  have hr := Policy.settled_cases hs' hv'
  rw [same] at hr
  rcases Plan.settled_cases hs hv with
    ⟨v, ho, hr₀, -⟩ | ⟨e, -, ho, declined, hr₀, -⟩ | ⟨e, -, ho, accepted, last, hr₀, -⟩
  · rcases hr with ⟨v', ho', hr⟩ | ⟨e', ho', -⟩
    · cases ho.symm.trans ho'
      exact .inl ⟨v, hr₀, hr⟩
    · cases ho.symm.trans ho'
  · rcases hr with ⟨v', ho', -⟩ | ⟨e', ho', -, hr⟩
    · cases ho.symm.trans ho'
    · cases ho.symm.trans ho'
      exact .inr (.inl ⟨e, declined, hr₀, hr⟩)
  · have hlast : n + 1 = p.attempts := by omega
    rcases hr with ⟨v', ho', -⟩ | ⟨e', ho', -, hr⟩
    · cases ho.symm.trans ho'
    · cases ho.symm.trans ho'
      exact .inr (.inr ⟨e, accepted, hlast, by rw [hr₀, hlast], hr⟩)

/-- Runs by a plan and by a schedule of as many attempts agree if they come to the same in each
attempt and neither is cut short. -/
theorem agree_of_settled (hs : s.rule = p.rule pick (.ofFault fault))
    (hs' : s'.rule = policy.rule message) (h : policy.Schedules p.maxAttempts fault)
    (same : ∀ k, (s'.attempt k).outcome = (s.attempt k).outcome) {n' : Nat}
    (hm : s.Makes 0 n r) {signals : List Signal} (hv : s.verdict n = .settled r.result signals)
    (hm' : s'.Makes 0 n' r') {signals' : List Signal}
    (hv' : s'.verdict n' = .settled r'.result signals') :
    Agree p.attempts (.ofFault fault) s s' r r' := by
  have waits (k : Nat) : (s'.verdict k).waits = (s.verdict k).waits := by
    rw [Bool.eq_iff_iff, Policy.waits_iff_of_schedules h hs', Plan.waits_iff hs]
    simp only [Series.Retried, same, Plan.attempts]
  obtain rfl : n' = n := hm.last_eq hm' waits (by rw [hv]; rfl) (by rw [hv']; rfl)
  have hcount : r.count = n' + 1 := hm.count
  have hcount' : r'.count = n' + 1 := hm'.count
  have hn : n' < p.attempts := Plan.lt_attempts hs hm
  have hresult := result_of_settled_both hs hs' (same n') hn hv hv'
  constructor
  case count => rw [hcount, hcount']
  case count_pos => rw [hcount]; exact Nat.succ_pos n'
  case count_le => rw [hcount]; exact hn
  case result => simpa only [hcount] using hresult
  case exhausted_iff =>
    intro e
    rcases hresult with ⟨v, hr, hr'⟩ | ⟨e', declined, hr, hr'⟩ | ⟨e', accepted, -, hr, hr'⟩
    · simp [hr, hr']
    · simp only [hr, hr', Except.error.injEq, RetryError.terminal.injEq, reduceCtorEq, false_iff]
      rintro ⟨rfl, accepted⟩
      cases declined.symm.trans accepted
    · simp only [hr, hr', Except.error.injEq, RetryError.terminal.injEq,
        RetryError.exhausted.injEq, true_and]
      exact ⟨fun he => ⟨he, he ▸ accepted⟩, And.left⟩
  case counters =>
    intro outcome
    have told (k : Nat) :
        (s'.told k).count (.attempt outcome) = (s.told k).count (.attempt outcome) := by
      rw [Plan.count_told hs, Policy.count_told hs', same]
    refine ⟨(s.own r.count).count (.attempt outcome), ?_, ?_⟩
    · simpa only [Journal.count_eq_countP] using hm.countP _
    · rw [← Series.count_own told, hcount, ← hcount']
      simpa only [Journal.count_eq_countP] using hm'.countP _
  case unsaturated =>
    intro k hk
    have hle := p.attempts_lt
    simp only [Policy.number, Backoff.nextAttempt]
    omega

end

/-- In scopes that last, the run by a plan and that by a schedule of as many attempts agree
whenever the operation comes to the same in both, and the schedule comes to an end. -/
theorem schedules_agree (p : Plan) (pick : Nat → Backoff.Sampler) (fault : ε → Fault)
    (message : ε → String) {policy : Policy ε} (h : policy.Schedules p.maxAttempts fault)
    {outcomes : Nat → Except ε α} {op op' : Operation ε α} (yields : op.Yields outcomes)
    (yields' : op'.Yields outcomes) (scope scope' : Scope) (now now' : Instant)
    (lasts : (p.series pick (.ofFault fault) op scope now).Lasts)
    (lasts' : (policy.series message op' scope' now').Lasts) :
    ∃ r', policy.run? message op' scope' now' = some r' ∧
      Agree p.attempts (.ofFault fault) (p.series pick (.ofFault fault) op scope now)
        (policy.series message op' scope' now') (p.run pick (.ofFault fault) op scope now) r' := by
  obtain ⟨r', hr'⟩ := Policy.isSome_run_of_schedules h message op' scope' now'
  obtain ⟨n, signals, hm, hv, -⟩ := Series.settles (s := p.series pick (.ofFault fault) op scope now)
    (p.run_loop pick (.ofFault fault) op scope now) lasts
  obtain ⟨n', signals', hm', hv', -⟩ := Series.settles (s := policy.series message op' scope' now')
    (policy.loop_of_attemptsFrom? message op' hr').1 lasts'
  refine ⟨r', hr', agree_of_settled rfl rfl h (fun k => ?_) hm hv hm' hv'⟩
  exact (yields' k _ _).trans (yields k _ _).symm

/-- Attempts that fail in one way and take so long. -/
def unreachable (nanos : Nat) : Operation Fault String := fun _ scope now =>
  ⟨.error (.leaf "agent unreachable"), scope, now + nanos, []⟩

/-- Three failures by the plan and by the linear schedule with no settings of their own, which
are slower in the second run. -/
theorem schedules_agree_exhausted :
    let plan : Plan := {}
    let pick : Nat → Backoff.Sampler := fun _ => Backoff.Band.middle
    let s := plan.series pick (.ofFault id) (unreachable 5000) {} 0
    let s' := (Policy.linear {} id).series Fault.message (unreachable 70000) {} 0
    let r := plan.run pick (.ofFault id) (unreachable 5000) {} 0
    s.Lasts ∧ s'.Lasts ∧ r.count = 3 ∧
      ∃ r', (Policy.linear {} id).run? Fault.message (unreachable 70000) {} 0 = some r' ∧
        Agree 3 (.ofFault id) s s' r r' := by
  intro plan pick s s' r
  have lasts : s.Lasts := Series.lasts_of_endless rfl fun _ _ => rfl
  have lasts' : s'.Lasts := Series.lasts_of_endless rfl fun _ _ => rfl
  have yields (nanos : Nat) :
      (unreachable nanos).Yields fun _ => .error (.leaf "agent unreachable") := fun _ _ _ => rfl
  refine ⟨lasts, lasts', by decide +kernel, ?_⟩
  exact schedules_agree plan pick id Fault.message (.linear {} rfl) (yields 5000) (yields 70000)
    {} {} 0 0 lasts lasts'

end CallGuard.Retry
