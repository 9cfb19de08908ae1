import CallGuard.Proofs.Backoff.Cap
import CallGuard.Proofs.Binary64.Power
import CallGuard.Proofs.Retry.Agreement

/-! Delays that double. With a multiplier of two and a cap of up to `2 ^ 22` seconds all products
are exact, and all errors of the seconds are less than half a nanosecond. So a delay that grows is
the initial one doubled so many times, up to the cap (`grown_two`), and the exponential schedule,
which takes the power at once, has the same delays (`base_two`). From its attempt 1024 on the
power is infinite: it delays by the cap then, also from no delay at all, which never grows
(`doubling`). -/

namespace CallGuard

namespace Backoff

open Binary64

-- No power of two is to be multiplied out.
attribute [local irreducible] one overflow

variable {u j : Nat} {d cap : Duration}

/-- A delay doubled so many times, or the cap. -/
def doubled (delay cap : Duration) (k : Nat) : Duration :=
  ⟨min (delay.nanos * 2 ^ k) cap.nanos, (Nat.min_le_right _ _).trans cap.nanos_le⟩

theorem doubled_zero (h : d.nanos ≤ cap.nanos) : doubled d cap 0 = d := by
  refine Duration.ext_nanos ?_
  change min (d.nanos * 2 ^ 0) cap.nanos = d.nanos
  rw [pow_zero, Nat.mul_one]
  exact Nat.min_eq_left h

theorem doubled_succ (d cap : Duration) (k : Nat) :
    doubled (doubled d cap k) cap 1 = doubled d cap (k + 1) := by
  refine Duration.ext_nanos ?_
  change min (min (d.nanos * 2 ^ k) cap.nanos * 2 ^ 1) cap.nanos =
    min (d.nanos * 2 ^ (k + 1)) cap.nanos
  rw [pow_one, pow_succ, ← Nat.mul_assoc]
  omega

/-- Some delay comes to the cap in the end. -/
theorem doubled_of_le (pos : d.nanos ≠ 0) {k : Nat} (h : 1024 ≤ k) : doubled d cap k = cap := by
  refine Duration.ext_nanos (Nat.min_eq_right ?_)
  calc cap.nanos ≤ 2 ^ 94 := cap.nanos_le.trans (by decide)
    _ ≤ 2 ^ k := Nat.pow_le_pow_right (by decide) (by omega)
    _ ≤ d.nanos * 2 ^ k := Nat.le_mul_of_pos_left _ (Nat.pos_of_ne_zero pos)

/-! ### Seconds and the cap -/

theorem capped_of_infinite (cap : Duration) : capped (.infinite false) cap = cap := rfl

theorem capped_of_nan (cap : Duration) : capped .nan cap = cap := rfl

theorem capped_finite (hr : Representable u) : capped (.finite false u hr) cap =
    if cap.units ≤ u then cap else Duration.ofSeconds (.finite false u hr) := by
  rw [capped, Duration.toSeconds_eq]
  simp [le, signed, isFinite]

/-- A product with an infinite power is the cap, also if there is no delay. -/
theorem capped_mul_infinite (d cap : Duration) :
    capped (d.toSeconds * .infinite false) cap = cap := by
  rw [Duration.toSeconds_eq, finite_mul_infinite]
  split
  next => exact capped_of_nan cap
  next => exact capped_of_infinite cap

/-- Seconds times a power of two, up to a cap of `2 ^ 22` seconds, are the doubled delay. -/
theorem capped_mul_two_pow (ordered : d.nanos ≤ cap.nanos)
    (bounded : cap.nanos ≤ 4194304 * 1000000000) (hj : j < 1024) :
    capped (d.toSeconds * ofNat (Nat.pow 2 j)) cap = doubled d cap j := by
  refine Duration.ext_nanos ?_
  have hcap := cap.representable_units.1
  rw [Duration.toSeconds_eq, mul_two_pow _ hj]
  change _ = min (d.nanos * Nat.pow 2 j) cap.nanos
  have hu := ulp_dvd_mul_two_pow d.representable_units.2 j
  -- below the cap the delay has the lesser number
  have below : cap.units ≤ d.units * Nat.pow 2 j → cap.nanos ≤ d.nanos * Nat.pow 2 j :=
    fun hle => Nat.not_lt.1 fun hlt => Nat.not_lt.2 hle (Duration.units_mul_lt bounded hlt)
  rcases Nat.lt_or_ge (d.units * Nat.pow 2 j) overflow with hlt | hge
  · have hr : Representable (d.units * Nat.pow 2 j) := ⟨hlt, hu⟩
    rw [ofRatio_of_representable hr, capped_finite hr]
    split
    next hle => exact (Nat.min_eq_right (below hle)).symm
    next hgt =>
      have hle := Duration.nanos_ofSeconds_le hr (Nat.not_le.1 hgt)
      have hsmall : d.nanos * Nat.pow 2 j < 4194304 * 1000000000 := by
        refine Nat.not_le.1 fun hlarge => hgt ?_
        exact (Duration.units_le_of_le bounded).trans
          (Duration.le_units_mul hj (ordered.trans bounded) hlarge)
      have hcut := cap.nanos_le
      rw [Duration.nanos_ofSeconds, Duration.roundHalfEven_units_mul hsmall] at hle ⊢
      omega
  · rw [ofRatio_of_overflow hu hge, capped_of_infinite]
    exact (Nat.min_eq_right (below (hcap.le.trans hge))).symm

/-! ### Schedules -/

/-- What grows by two is doubled. -/
theorem grown_two (ordered : d.nanos ≤ cap.nanos) (bounded : cap.nanos ≤ 4194304 * 1000000000)
    (k : Nat) : grown d 2 cap k = doubled d cap k := by
  induction k with
  | zero => exact (doubled_zero ordered).symm
  | succ k ih =>
    rw [grown, ih, ← doubled_succ]
    exact capped_mul_two_pow (Nat.min_le_right _ _) bounded (j := 1) (by decide)

namespace Exponential

variable {p : Exponential} {k : Nat}

theorem base_two (two : p.multiplier = 2) (ordered : p.initial.nanos ≤ p.cap.nanos)
    (bounded : p.cap.nanos ≤ 4194304 * 1000000000) (h : k < 1024) :
    p.base k = doubled p.initial p.cap k := by
  have hk : min k maxExponent = k := by
    unfold maxExponent
    omega
  rw [base, hk, two, powNat_two]
  exact capped_mul_two_pow ordered bounded h

/-- Where the power is infinite, the delay is the cap. -/
theorem base_two_of_le (two : p.multiplier = 2) (h : 1024 ≤ k) : p.base k = p.cap := by
  have hk : 1024 ≤ min k maxExponent := by
    unfold maxExponent
    omega
  rw [base, two, powNat_two, ofNat_two_pow_of_le hk]
  exact capped_mul_infinite p.initial p.cap

end Exponential

/-- A schedule and a plan that double the same delay up to the same cap, without jitter. -/
structure Doubling (p : Exponential) (q : Retry.Plan) : Prop where
  initial : q.initial = p.initial
  cap : q.cap = p.cap
  schedule : p.multiplier = 2 ∧ Still p.factor
  plan : q.multiplier = 2 ∧ Still q.factor
  ordered : p.initial.nanos ≤ p.cap.nanos
  bounded : p.cap.nanos ≤ 4194304 * 1000000000

namespace Doubling

variable {p : Exponential} {q : Retry.Plan}

theorem wait_eq (h : Doubling p q) (pick : Nat → Sampler) (k : Nat) :
    q.wait pick k = doubled p.initial p.cap k := by
  rw [Retry.Plan.wait, jitter_of_still h.plan.2, Retry.Plan.base, h.initial, h.cap, h.plan.1]
  exact grown_two h.ordered h.bounded k

theorem delay_eq (h : Doubling p q) (pick : Sampler) (k : Nat) : p.delay pick k =
    if p.initial.nanos = 0 ∧ 1024 ≤ k then p.cap else doubled p.initial p.cap k := by
  rw [p.delay_of_still h.schedule.2]
  split
  next hz => exact Exponential.base_two_of_le h.schedule.1 hz.2
  next hz =>
    rcases Nat.lt_or_ge k 1024 with hk | hk
    · exact Exponential.base_two h.schedule.1 h.ordered h.bounded hk
    · rw [Exponential.base_two_of_le h.schedule.1 hk, doubled_of_le (fun hd => hz ⟨hd, hk⟩) hk]

end Doubling

end Backoff

/-! ### Runs with the same waits -/

namespace Retry

variable {ε α : Type}

/-- The wait that a verdict asks for. -/
def Verdict.delay? : Verdict ε α → Option Duration
  | settled _ _ => none
  | wait delay _ => some delay

/-- Rules that ask for the same waits make attempts at the same times. -/
theorem Loop.times_eq {rule rule' : Rule ε α} {op : Operation ε α} {k : Nat} {scope : Scope}
    {now : Instant} {r r' : Run ε α} (same : ∀ k o, (rule' k o).delay? = (rule k o).delay?)
    (h : Loop rule op k scope now r) (h' : Loop rule' op k scope now r') :
    r'.attempts = r.attempts ∧ r'.scope = r.scope ∧ r'.now = r.now := by
  induction h generalizing r' with
  | stopped ended =>
    rw [h'.eq_stopped ended]
    exact ⟨rfl, rfl, rfl⟩
  | @settled k scope now _ _ live verdict =>
    have hd := same k (op k scope now).outcome
    rw [verdict] at hd
    cases h' with
    | stopped ended => cases live.symm.trans ended
    | settled => exact ⟨rfl, rfl, rfl⟩
    | halted _ verdict' => rw [verdict'] at hd; cases hd
    | again _ verdict' => rw [verdict'] at hd; cases hd
  | @halted k scope now _ _ _ _ live verdict cut =>
    have hd := same k (op k scope now).outcome
    rw [verdict] at hd
    cases h' with
    | stopped ended => cases live.symm.trans ended
    | settled _ verdict' => rw [verdict'] at hd; cases hd
    | halted _ verdict' cut' =>
      rw [verdict'] at hd
      cases hd
      cases cut.symm.trans cut'
      exact ⟨rfl, rfl, rfl⟩
    | again _ verdict' slept' =>
      rw [verdict'] at hd
      cases hd
      cases cut.symm.trans slept'
  | @again k scope now _ _ _ _ live verdict slept _ ih =>
    have hd := same k (op k scope now).outcome
    rw [verdict] at hd
    cases h' with
    | stopped ended => cases live.symm.trans ended
    | settled _ verdict' => rw [verdict'] at hd; cases hd
    | halted _ verdict' cut' =>
      rw [verdict'] at hd
      cases hd
      cases slept.symm.trans cut'
    | again _ verdict' slept' rest' =>
      rw [verdict'] at hd
      cases hd
      cases slept.symm.trans slept'
      obtain ⟨attempts, scope, now⟩ := ih rest'
      exact ⟨congrArg (_ :: ·) attempts, scope, now⟩

variable {p : Plan} {pick : Nat → Backoff.Sampler} {policy : Policy ε} {fault : ε → Fault}

/-- A plan and a schedule of as many attempts with the same waits between them ask for the same
waits. -/
theorem delay?_rule_eq (h : policy.Schedules p.maxAttempts fault)
    (waits : ∀ k, k + 1 < p.attempts → policy.delay k = p.wait pick k) (message : ε → String)
    (k : Nat) (o : Except ε α) :
    (policy.rule message k o).delay? = (p.rule pick (.ofFault fault) k o).delay? := by
  cases o with
  | ok v => rfl
  | error e =>
    have retries := h.retries e (Policy.number k)
    have left := attemptsLeft_number_iff p.maxAttempts k
    cases accepted : (fault e).isRetryable with
    | false =>
      rw [accepted, Bool.and_false] at retries
      rw [policy.rule_terminal (by rw [retries]; rfl),
        p.rule_terminal pick (show (!(fault e).isRetryable) = true by rw [accepted]; rfl)]
      rfl
    | true =>
      have hp : ¬(!(fault e).isRetryable) = true := by rw [accepted]; exact Bool.false_ne_true
      rw [accepted, Bool.and_true] at retries
      rcases Nat.lt_or_ge (k + 1) p.attempts with hk | hk
      · rw [left.2 hk] at retries
        have hnumber : Policy.number k = k := by
          have hlt := p.attempts_lt
          unfold Policy.number
          omega
        rw [policy.rule_wait (by rw [retries]; exact Bool.false_ne_true),
          p.rule_wait pick hp hk, hnumber]
        exact congrArg some (waits k hk)
      · rw [Bool.eq_false_iff.2 fun hl => Nat.not_lt.2 hk (left.1 hl)] at retries
        rw [policy.rule_terminal (by rw [retries]; rfl), p.rule_exhausted pick hp hk]
        rfl

/-- So their runs make attempts at the same times and end at the same time, cut short or not. -/
theorem times_eq_of_waits (h : policy.Schedules p.maxAttempts fault)
    (waits : ∀ k, k + 1 < p.attempts → policy.delay k = p.wait pick k) (message : ε → String)
    (op : Operation ε α) (scope : Scope) (now : Instant) :
    ∃ r', policy.run? message op scope now = some r' ∧
      r'.attempts = (p.run pick (.ofFault fault) op scope now).attempts ∧
      r'.scope = (p.run pick (.ofFault fault) op scope now).scope ∧
      r'.now = (p.run pick (.ofFault fault) op scope now).now := by
  obtain ⟨r', hr'⟩ := Policy.isSome_run_of_schedules h message op scope now
  exact ⟨r', hr', (p.run_loop pick (.ofFault fault) op scope now).times_eq
    (delay?_rule_eq h waits message) (policy.loop_of_attemptsFrom? message op hr').1⟩

end Retry

namespace Backoff

open Binary64

/-- How a schedule and a plan go that double, for any picks from bands that there are not. -/
structure Doubling.Paced (p : Exponential) (q : Retry.Plan) (pick pick' : Nat → Sampler) :
    Prop where
  /-- The plan waits for the doubled delay or the cap, after any number of failures. -/
  base : ∀ k, (q.base k).nanos = min (p.initial.nanos * 2 ^ k) p.cap.nanos
  wait : ∀ k, q.wait pick k = q.base k
  /-- So does the schedule while the power is finite, and then if there is a delay. -/
  delay : ∀ k, p.initial.nanos ≠ 0 ∨ k < 1024 →
    (p.delay (pick' k) k).nanos = min (p.initial.nanos * 2 ^ k) p.cap.nanos
  /-- Without a delay an infinite power makes it the cap. -/
  infinite : p.initial.nanos = 0 → ∀ k, 1024 ≤ k → p.delay (pick' k) k = p.cap
  /-- Elsewhere both wait the same. -/
  same_iff : ∀ k, p.delay (pick' k) k = q.wait pick k ↔
    ¬(p.initial.nanos = 0 ∧ p.cap.nanos ≠ 0 ∧ 1024 ≤ k)
  /-- So runs by either make attempts at the same times, whatever cuts them short. -/
  runs : q.maxAttempts = p.maxAttempts →
    p.initial.nanos ≠ 0 ∨ p.cap.nanos = 0 ∨ p.maxAttempts.toNat ≤ 1025 →
    ∀ {ε α : Type} (fault : ε → Fault) (message : ε → String) (op : Retry.Operation ε α)
      (scope : Scope) (now : Instant), ∃ r',
        (Retry.Policy.exponential p pick' fault).run? message op scope now = some r' ∧
        r'.attempts = (q.run pick (.ofFault fault) op scope now).attempts ∧
        r'.scope = (q.run pick (.ofFault fault) op scope now).scope ∧
        r'.now = (q.run pick (.ofFault fault) op scope now).now

/-- The exponential schedule and the plan that double the same delay wait for the delay doubled
so many times, up to the cap; only that from no delay at all the schedule comes to the cap. -/
theorem doubling {p : Exponential} {q : Retry.Plan} (h : Doubling p q)
    (pick pick' : Nat → Sampler) : Doubling.Paced p q pick pick' := by
  have hwait (k : Nat) : q.wait pick k = q.base k := jitter_of_still h.plan.2 _ _
  have hbase (k : Nat) : q.base k = doubled p.initial p.cap k := by rw [← hwait, h.wait_eq]
  have same (k : Nat) : p.delay (pick' k) k = q.wait pick k ↔
      ¬(p.initial.nanos = 0 ∧ p.cap.nanos ≠ 0 ∧ 1024 ≤ k) := by
    rw [h.wait_eq, h.delay_eq]
    by_cases hz : p.initial.nanos = 0 ∧ 1024 ≤ k
    · have hnone : (doubled p.initial p.cap k).nanos = 0 := by
        change min (p.initial.nanos * 2 ^ k) p.cap.nanos = 0
        rw [hz.1, Nat.zero_mul, Nat.zero_min]
      rw [if_pos hz]
      constructor
      · rintro heq ⟨-, hcap, -⟩
        exact hcap (heq ▸ hnone)
      · intro hcap
        exact Duration.ext_nanos (by omega)
    · rw [if_neg hz]
      exact iff_of_true rfl fun hall => hz ⟨hall.1, hall.2.2⟩
  constructor
  case base => exact fun k => congrArg Duration.nanos (hbase k)
  case wait => exact hwait
  case delay =>
    intro k hk
    rw [h.delay_eq, if_neg (by omega)]
    rfl
  case infinite =>
    intro hz k hk
    rw [h.delay_eq, if_pos ⟨hz, hk⟩]
  case same_iff => exact same
  case runs =>
    intro attempts apart ε α fault message op scope now
    refine Retry.times_eq_of_waits (.exponential p pick' attempts.symm) (fun k hk => ?_) message op
      scope now
    dsimp only [Retry.Policy.exponential]
    refine (same k).2 fun hall => ?_
    rw [Retry.Plan.attempts, attempts] at hk
    omega

/-- A tenth of a second, doubled up to half a second. -/
def tenth : Exponential where
  cap := .ofMillis 500
  factor := 0
  maxAttempts := 10

theorem doubling_tenth :
    let q : Retry.Plan := { cap := .ofMillis 500, factor := 0, maxAttempts := 10 }
    Doubling tenth q ∧ Doubling.Paced tenth q (fun _ => Band.middle) (fun _ => Band.middle) ∧
      (tenth.delay Band.middle 2).nanos = 400000000 ∧
      (tenth.delay Band.middle 4294967295).nanos = 500000000 := by
  intro q
  have h : Doubling tenth q :=
    ⟨rfl, rfl, ⟨rfl, still_zero⟩, ⟨rfl, still_zero⟩, by decide, by decide⟩
  have paced := doubling h (fun _ => Band.middle) (fun _ => Band.middle)
  refine ⟨h, paced, (paced.delay 2 (.inr (by decide))).trans (by decide), ?_⟩
  rw [tenth.delay_of_still still_zero, Exponential.base_two_of_le h.schedule.1 (by decide)]
  rfl

/-- No delay at all, doubled up to a second. -/
def immediate : Exponential where
  initial := .zero
  cap := .ofMillis 1000
  factor := 0

/-- With no delay the schedule waits for a second after its attempt 1024, where the plan goes on
at once. -/
theorem immediate_capped :
    let q : Retry.Plan := { initial := .zero, cap := .ofMillis 1000, factor := 0 }
    Doubling immediate q ∧ (q.base 1024).nanos = 0 ∧
      min (immediate.initial.nanos * 2 ^ 1024) immediate.cap.nanos = 0 ∧
      (immediate.delay Band.middle 1023).nanos = 0 ∧
      (immediate.delay Band.middle 1024).nanos = 1000000000 := by
  intro q
  have h : Doubling immediate q :=
    ⟨rfl, rfl, ⟨rfl, still_zero⟩, ⟨rfl, still_zero⟩, by decide, by decide⟩
  have hnone (k : Nat) : (doubled immediate.initial immediate.cap k).nanos = 0 := by
    change min (0 * 2 ^ k) _ = 0
    rw [Nat.zero_mul, Nat.zero_min]
  refine ⟨h, ?_, hnone 1024, ?_, ?_⟩
  · rw [← jitter_of_still h.plan.2 Band.middle (q.base 1024)]
    exact (congrArg Duration.nanos (h.wait_eq (fun _ => Band.middle) 1024)).trans (hnone 1024)
  · rw [h.delay_eq, if_neg (by decide)]
    exact hnone 1023
  · rw [h.delay_eq, if_pos (by decide)]
    rfl

end Backoff

end CallGuard
