import CallGuard.Proofs.Retry.Pace
import CallGuard.Proofs.Retry.Policy

/-! What a deadline does to a policy that need not ever stop. Between two attempts there is a
sleep of at least the shortest delay, so that the time left shrinks by as much, and with the time
the attempts are over (`Policy.deadline_bounds`). A sleep that the clock has no instant for takes
thirty years in its place, and more attempts than delays of such a length fit in the time left
(`Policy.longest_delay_cut`). -/

namespace CallGuard

namespace Instant

/-- The sleep in place of one that the clock has no instant for. -/
def thirtyYears : Nat := 946080000000000000

theorem add_le_sleepEnd {t : Instant} {d : Duration} (h : t + d.nanos < rangeEnd) :
    t + d.nanos ≤ sleepEnd t d := by
  by_cases hd : d.nanos = 0
  · rw [sleepEnd_of_zero hd, hd]
    exact Nat.le_refl _
  · rw [sleepEnd_of_lt hd h]
    exact le_wake _

/-- A sleep takes its time, or thirty years. -/
theorem add_min_le_sleepEnd (t : Instant) (d : Duration) :
    t + min d.nanos thirtyYears ≤ sleepEnd t d := by
  by_cases h : t + d.nanos < rangeEnd
  · exact Nat.le_trans (Nat.add_le_add_left (Nat.min_le_left _ _) t) (add_le_sleepEnd h)
  · by_cases hd : d.nanos = 0
    · rw [sleepEnd_of_zero hd, hd, Nat.zero_min]
      exact Nat.le_refl _
    · rw [sleepEnd, if_neg hd, after?, if_neg h]
      exact Nat.le_trans (Nat.add_le_add_left (Nat.min_le_right _ _) t) (le_wake _)

end Instant

namespace Retry

variable {ε α : Type}

/-- The quotient, rounded up. -/
def ceilQuotient (n w : Nat) : Nat := (n + (w - 1)) / w

theorem lt_ceilQuotient_iff {k n w : Nat} (hw : 0 < w) : k < ceilQuotient n w ↔ k * w < n := by
  rw [ceilQuotient, Nat.lt_div_iff_mul_lt hw]
  omega

/-- Attempts take time, and leave the deadline of their scope as it is. -/
structure Operation.Lawful (op : Operation ε α) : Prop where
  forward : ∀ k scope now, now ≤ (op k scope now).now
  deadline : ∀ k scope now, (op k scope now).scope.deadline = scope.deadline

namespace Series

variable {s : Series ε α} {deadline : Instant} {k n w : Nat} {r : Run ε α}

theorem deadline_start (lawful : Operation.Lawful s.op) (k : Nat) :
    (s.start k).1.deadline = s.scope.deadline := by
  induction k with
  | zero => rfl
  | succ k ih => exact (lawful.deadline k _ _).trans ih

/-- Where every sleep takes some time at least, so much is gone after so many. -/
theorem add_mul_le_start (lawful : Operation.Lawful s.op)
    (sleeps : ∀ i < k, (s.attempt i).now + w ≤ (s.start (i + 1)).2) :
    s.now + k * w ≤ (s.start k).2 := by
  induction k with
  | zero => simp [start]
  | succ k ih =>
    calc s.now + (k + 1) * w = s.now + k * w + w := by rw [Nat.succ_mul, Nat.add_assoc]
      _ ≤ (s.start k).2 + w := Nat.add_le_add_right (ih fun i hi => sleeps i (by omega)) w
      _ ≤ (s.attempt k).now + w := Nat.add_le_add_right (lawful.forward k _ _) w
      _ ≤ (s.start (k + 1)).2 := sleeps k (Nat.lt_succ_self k)

/-- An attempt that starts in a scope that is not over has its number of sleeps before the
deadline. -/
theorem lt_ceilQuotient_of_live (lawful : Operation.Lawful s.op)
    (hd : s.scope.deadline = some deadline) (hw : 0 < w)
    (sleeps : ∀ i < k, (s.attempt i).now + w ≤ (s.start (i + 1)).2) (live : s.LiveAt k) :
    k < ceilQuotient (deadline - s.now) w := by
  have before : ¬ deadline ≤ (s.start k).2 := fun h =>
    Scope.error?_eq_none_iff.1 live .deadlineExceeded
      ⟨deadline, (deadline_start lawful k).trans hd, h⟩
  have gone : s.now + k * w < deadline :=
    Nat.lt_of_le_of_lt (add_mul_le_start lawful sleeps) (Nat.lt_of_not_le before)
  rw [lt_ceilQuotient_iff hw]
  exact Nat.lt_sub_of_add_lt (by rwa [Nat.add_comm] at gone)

end Series

namespace Policy

variable {p : Policy ε} {message : ε → String} {s : Series ε α} {deadline : Instant} {k n w : Nat}
  {r : Run ε α}

theorem number_lt (k : Nat) : number k < UInt32.size := by
  have := Nat.min_le_right k (UInt32.size - 1)
  exact Nat.lt_of_le_of_lt this (by decide)

/-- The next attempt is due when the delay of the policy is over. -/
theorem start_succ_of_waits (hs : s.rule = p.rule message) (h : (s.verdict k).waits = true) :
    (s.start (k + 1)).2 = Instant.sleepEnd (s.attempt k).now (p.delay (number k)) := by
  cases ho : (s.attempt k).outcome with
  | ok v =>
    rw [verdict_value hs ho] at h
    cases h
  | error e =>
    cases hr : p.retries e (number k) with
    | false =>
      rw [verdict_terminal hs ho hr] at h
      cases h
    | true =>
      rw [Series.start_succ, verdict_wait hs ho hr]
      rfl

/-- A policy sleeps for its shortest delay at least, or thirty years. -/
theorem add_min_le_start (hs : s.rule = p.rule message)
    (delays : ∀ k < UInt32.size, w ≤ (p.delay k).nanos) (h : (s.verdict k).waits = true) :
    (s.attempt k).now + min w Instant.thirtyYears ≤ (s.start (k + 1)).2 := by
  have shortest := delays (number k) (number_lt k)
  rw [start_succ_of_waits hs h]
  refine Nat.le_trans (Nat.add_le_add_left ?_ _) (Instant.add_min_le_sleepEnd _ _)
  omega

/-- As far as the clock goes, it does so for the delay. -/
theorem add_le_start (hs : s.rule = p.rule message)
    (delays : ∀ k < UInt32.size, w ≤ (p.delay k).nanos) (h : (s.verdict k).waits = true)
    (reached : (s.attempt k).now + (p.delay (number k)).nanos < Instant.rangeEnd) :
    (s.attempt k).now + w ≤ (s.start (k + 1)).2 := by
  rw [start_succ_of_waits hs h]
  exact Nat.le_trans (Nat.add_le_add_left (delays (number k) (number_lt k)) _)
    (Instant.add_le_sleepEnd reached)

/-- A run stays within the time left to its deadline, given the shortest delay of the policy. -/
structure Bounded (p : Policy ε) (w : Nat) (deadline : Instant) (s : Series ε α)
    (r : Run ε α) : Prop where
  /-- There are no more attempts than delays of that length in the time left, none of them
  counting for more than thirty years. -/
  count_le : r.count ≤ ceilQuotient (deadline - s.now) (min w Instant.thirtyYears)
  /-- Nor than of that length itself if no wait between two attempts is beyond the clock. -/
  count_le_of_reached : (∀ k, k + 1 < r.count →
      (s.attempt k).now + (p.delay (number k)).nanos < Instant.rangeEnd) →
    r.count ≤ ceilQuotient (deadline - s.now) w
  /-- From the deadline on there is no attempt. -/
  atOnce : deadline ≤ s.now → ∃ e, r = .stopped e s.scope s.now
  /-- Where every error made is followed up, the run is cancelled. -/
  cancelled : (∀ k < r.count, ∃ e, (s.attempt k).outcome = .error e ∧
    p.retries e (number k) = true) → ∃ e, r.result = .error (.cancelled e)

theorem bounded_stopped {e : ContextError} : p.Bounded w deadline s (.stopped e s.scope s.now) where
  count_le := Nat.zero_le _
  count_le_of_reached _ := Nat.zero_le _
  atOnce _ := ⟨e, rfl⟩
  cancelled _ := ⟨e, rfl⟩

theorem bounded_of_makes (hs : s.rule = p.rule message) (lawful : Operation.Lawful s.op)
    (pos : 0 < w) (delays : ∀ k < UInt32.size, w ≤ (p.delay k).nanos)
    (hd : s.scope.deadline = some deadline) (h : s.Makes 0 n r) : p.Bounded w deadline s r := by
  have live : s.LiveAt n := h.live n (Nat.zero_le n) (Nat.le_refl n)
  have waits (i : Nat) (hi : i < n) : (s.verdict i).waits = true := h.waits i (Nat.zero_le i) hi
  constructor
  case count_le =>
    rw [h.count]
    exact Series.lt_ceilQuotient_of_live lawful hd (Nat.lt_min.2 ⟨pos, by decide⟩)
      (fun i hi => add_min_le_start hs delays (waits i hi)) live
  case count_le_of_reached =>
    intro reached
    rw [h.count] at reached ⊢
    exact Series.lt_ceilQuotient_of_live lawful hd pos
      (fun i hi => add_le_start hs delays (waits i hi) (reached i (Nat.succ_lt_succ hi))) live
  case atOnce =>
    intro past
    exact absurd ⟨deadline, hd, past⟩
      (Scope.error?_eq_none_iff.1 (h.live 0 (Nat.le_refl 0) (Nat.zero_le n)) .deadlineExceeded)
  case cancelled =>
    intro accepted
    obtain ⟨e, ho, hr⟩ := accepted n (by rw [h.count]; exact Nat.lt_succ_self n)
    cases h.ends with
    | settled verdict => cases verdict.symm.trans (verdict_wait hs ho hr)
    | halted _ _ _ result => exact ⟨_, result⟩

theorem bounded_of_loop (hs : s.rule = p.rule message) (lawful : Operation.Lawful s.op)
    (pos : 0 < w) (delays : ∀ k < UInt32.size, w ≤ (p.delay k).nanos)
    (hd : s.scope.deadline = some deadline) (h : Loop s.rule s.op 0 s.scope s.now r) :
    p.Bounded w deadline s r := by
  rcases Series.run_of_loop h with ⟨e, -, rfl⟩ | ⟨n, hn⟩
  · exact bounded_stopped
  · exact bounded_of_makes hs lawful pos delays hd hn

/-- With as many attempts allowed as fit before the deadline, a run by a policy ends. -/
theorem isSome_attemptsFrom? (lawful : Operation.Lawful s.op) (hs : s.rule = p.rule message)
    (pos : 0 < w) (delays : ∀ k < UInt32.size, w ≤ (p.delay k).nanos)
    (hd : s.scope.deadline = some deadline) {fuel : Nat}
    (hf : ceilQuotient (deadline - s.now) (min w Instant.thirtyYears) ≤ fuel) :
    ∃ r, p.attemptsFrom? message s.op fuel 0 s.scope s.now = some r := by
  cases h : p.attemptsFrom? message s.op fuel 0 s.scope s.now with
  | some r => exact ⟨r, rfl⟩
  | none =>
    -- It would start another attempt in a scope that is not over.
    have waits := waits_of_none hs rfl h
    have live := (waits fuel (Nat.zero_le fuel) (by omega)).1
    have := Series.lt_ceilQuotient_of_live lawful hd (Nat.lt_min.2 ⟨pos, by decide⟩)
      (fun i hi => add_min_le_start hs delays (waits i (Nat.zero_le i) (by omega)).2) live
    omega

/-- Before a deadline a policy with a shortest delay comes to an end, whatever it says, and all
its attempts fit in the time left. -/
theorem deadline_bounds (p : Policy ε) (message : ε → String) (op : Operation ε α)
    (lawful : op.Lawful) {w : Nat} (pos : 0 < w)
    (delays : ∀ k < UInt32.size, w ≤ (p.delay k).nanos) (scope : Scope) (deadline : Instant)
    (hd : scope.deadline = some deadline) (now : Instant) :
    ∃ r, (∀ fuel, ceilQuotient (deadline - now) (min w Instant.thirtyYears) ≤ fuel →
        p.attemptsFrom? message op fuel 0 scope now = some r) ∧
      p.Bounded w deadline (p.series message op scope now) r := by
  have ends (fuel : Nat)
      (hf : ceilQuotient (deadline - now) (min w Instant.thirtyYears) ≤ fuel) :=
    isSome_attemptsFrom? (s := p.series message op scope now) lawful rfl pos delays hd hf
  obtain ⟨r, hr⟩ := ends _ (Nat.le_refl _)
  have h := (p.loop_of_attemptsFrom? message op hr).1
  refine ⟨r, fun fuel hf => ?_, bounded_of_loop (s := p.series message op scope now) rfl lawful
    pos delays hd h⟩
  obtain ⟨r', hr'⟩ := ends fuel hf
  rw [h.eq (p.loop_of_attemptsFrom? message op hr').1]
  exact hr'

/-- Attempts that fail at once. -/
def failingAtOnce : Operation Nat String := fun k scope now => ⟨.error k, scope, now, []⟩

theorem lawful_failingAtOnce : failingAtOnce.Lawful :=
  ⟨fun _ _ now => Nat.le_refl now, fun _ _ _ => rfl⟩

/-- A policy that always goes on, after one delay. -/
def insisting (delay : Duration) : Policy Nat := ⟨fun _ _ => true, fun _ => delay⟩

/-- With a delay of two milliseconds and a deadline in nine, the fifth attempt is the last. -/
theorem deadline_bounds_insisting :
    let p := insisting (.ofNanos 2000000)
    let scope : Scope := ⟨none, some 9000000⟩
    failingAtOnce.Lawful ∧ (∀ k < UInt32.size, 2000000 ≤ (p.delay k).nanos) ∧
      ∃ r, p.attemptsFrom? (fun _ => "") failingAtOnce 5 0 scope 0 = some r ∧
        p.Bounded 2000000 9000000 (p.series (fun _ => "") failingAtOnce scope 0) r ∧
        r.count = 5 ∧ ceilQuotient 9000000 2000000 = 5 := by
  intro p scope
  have delays : ∀ k < UInt32.size, 2000000 ≤ (p.delay k).nanos := fun _ _ =>
    (by decide : 2000000 ≤ (Duration.ofNanos 2000000).nanos)
  obtain ⟨r, hr, hb⟩ := deadline_bounds p (fun _ => "") failingAtOnce lawful_failingAtOnce
    (by decide) delays scope 9000000 rfl 0
  have h5 := hr 5 (by decide)
  have count :
      (p.attemptsFrom? (fun _ => "") failingAtOnce 5 0 scope 0).map Run.count = some 5 := by
    decide +kernel
  rw [h5] at count
  exact ⟨lawful_failingAtOnce, delays, r, h5, hb, Option.some.inj count, by decide⟩

/-- The longest delay is beyond the clock, and before a deadline in forty-five years there is a
second attempt after thirty, though no more than one such delay fits in the time left. -/
theorem longest_delay_cut :
    let p := insisting .longest
    let scope : Scope := ⟨none, some 1419120000000000000⟩
    failingAtOnce.Lawful ∧ (∀ k < UInt32.size, Duration.longest.nanos ≤ (p.delay k).nanos) ∧
      ∃ r, p.run? (fun _ => "") failingAtOnce scope 0 = some r ∧
        ¬ r.count ≤ ceilQuotient 1419120000000000000 Duration.longest.nanos := by
  intro p scope
  have count : (p.run? (fun _ => "") failingAtOnce scope 0).map Run.count = some 2 := by
    decide +kernel
  obtain ⟨r, hr, hc⟩ := Option.map_eq_some_iff.1 count
  refine ⟨lawful_failingAtOnce, fun _ _ => Nat.le_refl _, r, hr, ?_⟩
  rw [hc]
  decide

end Policy

end Retry

end CallGuard
