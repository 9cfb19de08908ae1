import CallGuard.Backoff
import CallGuard.Proofs.Duration.Words

/-! Linear schedules. The delay after an attempt is the initial delay and so many increments, taken
over the naturals, or the cap if that is shorter. A product or a sum that is no duration is longer
than any cap, so that the schedule stops at the cap there too and never turns back
(`Linear.straight`). The same delays come out of machine words. -/

namespace CallGuard.Backoff.Linear

open Duration (Words)

/-- The uncapped delay after an attempt, over the naturals. -/
def reach (p : Linear) (attempt : Nat) : Nat := p.initial.nanos + p.increment.nanos * attempt

variable {p : Linear} {attempt : Nat} {step : Duration}

theorem reach_mono (p : Linear) {i j : Nat} (h : i ≤ j) : p.reach i ≤ p.reach j :=
  Nat.add_le_add_left (Nat.mul_le_mul_left _ h) _

/-! ### Products and sums that are no duration -/

theorem times?_eq_none_iff (d : Duration) (n : Nat) :
    d.times? n = none ↔ Duration.maxNanos < d.nanos * n := by
  unfold Duration.times?
  split <;> simp <;> omega

theorem nanos_of_times? {d e : Duration} {n : Nat} (h : d.times? n = some e) :
    e.nanos = d.nanos * n := by
  unfold Duration.times? at h
  split at h
  next => cases h; rfl
  next => cases h

theorem plus?_eq_none_iff (d e : Duration) :
    d.plus? e = none ↔ Duration.maxNanos < d.nanos + e.nanos := by
  unfold Duration.plus?
  split <;> simp <;> omega

theorem nanos_of_plus? {d e f : Duration} (h : d.plus? e = some f) :
    f.nanos = d.nanos + e.nanos := by
  unfold Duration.plus? at h
  split at h
  next => cases h; rfl
  next => cases h

theorem nanos_shorter (d e : Duration) : (d.shorter e).nanos = min e.nanos d.nanos := by
  unfold Duration.shorter
  split <;> omega

/-- The increments of an attempt are too many for a duration. -/
theorem reach_of_times? (h : p.increment.times? attempt = none) :
    Duration.maxNanos < p.reach attempt :=
  Nat.lt_of_lt_of_le ((times?_eq_none_iff _ _).1 h) (Nat.le_add_left _ _)

/-- The increments of an attempt are a duration, but too long a one after the initial delay. -/
theorem reach_of_plus? (h : p.increment.times? attempt = some step)
    (hs : p.initial.plus? step = none) : Duration.maxNanos < p.reach attempt := by
  rw [reach, ← nanos_of_times? h]
  exact (plus?_eq_none_iff _ _).1 hs

/-! ### Delays -/

theorem delay_of_times? (h : p.increment.times? attempt = none) : p.delay attempt = p.cap := by
  rw [delay, h, Option.bind_none]

theorem delay_of_plus? (h : p.increment.times? attempt = some step)
    (hs : p.initial.plus? step = none) : p.delay attempt = p.cap := by
  rw [delay, h, Option.bind_some, hs]

theorem min_reach (h : Duration.maxNanos < p.reach attempt) :
    min p.cap.nanos (p.reach attempt) = p.cap.nanos :=
  Nat.min_eq_left (Nat.le_trans p.cap.nanos_le (Nat.le_of_lt h))

/-- The delay is the exact one or the cap. -/
theorem nanos_delay (p : Linear) (attempt : Nat) :
    (p.delay attempt).nanos = min p.cap.nanos (p.reach attempt) := by
  cases hstep : p.increment.times? attempt with
  | none => rw [delay_of_times? hstep, min_reach (reach_of_times? hstep)]
  | some step =>
    cases hsum : p.initial.plus? step with
    | none => rw [delay_of_plus? hstep hsum, min_reach (reach_of_plus? hstep hsum)]
    | some sum =>
      have hdelay : p.delay attempt = sum.shorter p.cap := by
        rw [delay, hstep, Option.bind_some, hsum]
      rw [hdelay, nanos_shorter, nanos_of_plus? hsum, nanos_of_times? hstep, reach]

/-! ### Machine words -/

/-- The delay after an attempt, from machine words. -/
def delayInWords (p : Linear) (attempt : UInt32) : Words :=
  match ((Words.ofDuration p.increment).times? attempt).bind (Words.ofDuration p.initial).plus? with
  | none => .ofDuration p.cap
  | some delay => delay.shorter (.ofDuration p.cap)

theorem toDuration_delayInWords (p : Linear) (attempt : UInt32) :
    (p.delayInWords attempt).toDuration = p.delay attempt.toNat := by
  have hproduct := (Words.ofDuration p.increment).toDuration_times? attempt
  rw [Words.toDuration_ofDuration] at hproduct
  rw [delayInWords, delay, ← hproduct]
  cases (Words.ofDuration p.increment).times? attempt with
  | none => exact Words.toDuration_ofDuration p.cap
  | some step =>
    have hsum := (Words.ofDuration p.initial).toDuration_plus? step
    rw [Words.toDuration_ofDuration] at hsum
    rw [Option.bind_some, Option.map_some, Option.bind_some, ← hsum]
    cases (Words.ofDuration p.initial).plus? step with
    | none => exact Words.toDuration_ofDuration p.cap
    | some sum =>
      show (sum.shorter (.ofDuration p.cap)).toDuration = sum.toDuration.shorter p.cap
      rw [Words.toDuration_shorter, Words.toDuration_ofDuration]

/-! ### The schedule -/

/-- How a linear schedule delays. -/
structure Straight (p : Linear) : Prop where
  /-- The delay is the exact one or the cap, whichever is shorter. -/
  exact : ∀ attempt, (p.delay attempt).nanos =
    min p.cap.nanos (p.initial.nanos + p.increment.nanos * attempt)
  rising : ∀ i j, i ≤ j → (p.delay i).nanos ≤ (p.delay j).nanos
  le_cap : ∀ attempt, (p.delay attempt).nanos ≤ p.cap.nanos
  /-- Where the product is no duration, the delay is the cap, and the exact one is longer. -/
  product : ∀ attempt, p.increment.times? attempt = none → p.delay attempt = p.cap ∧
    p.cap.nanos < p.initial.nanos + p.increment.nanos * attempt
  /-- So it is where only the sum is no duration. -/
  sum : ∀ attempt step, p.increment.times? attempt = some step → p.initial.plus? step = none →
    p.delay attempt = p.cap ∧ p.cap.nanos < p.initial.nanos + p.increment.nanos * attempt
  /-- Seconds and nanoseconds in words come to the same. -/
  words : ∀ attempt : UInt32, (p.delayInWords attempt).toDuration = p.delay attempt.toNat

/-- Any linear schedule delays so. -/
theorem straight (p : Linear) : p.Straight where
  exact := p.nanos_delay
  rising i j h := by
    have hreach := p.reach_mono h
    rw [nanos_delay, nanos_delay]
    omega
  le_cap attempt := by
    rw [nanos_delay]
    exact Nat.min_le_left _ _
  product attempt h :=
    ⟨delay_of_times? h, Nat.lt_of_le_of_lt p.cap.nanos_le (reach_of_times? h)⟩
  sum attempt step h hs :=
    ⟨delay_of_plus? h hs, Nat.lt_of_le_of_lt p.cap.nanos_le (reach_of_plus? h hs)⟩
  words := p.toDuration_delayInWords

/-- An increment whose threefold is the longest duration but for a few nanoseconds. -/
example :
    let p : Linear := ⟨.ofNanos 10, .ofNanos 6148914691236517205333333333, .longest, 4⟩
    [2, 3, 4].map (fun k => (p.delay k).nanos) =
      [12297829382473034410666666676, Duration.maxNanos, Duration.maxNanos] := by decide +kernel

end CallGuard.Backoff.Linear
