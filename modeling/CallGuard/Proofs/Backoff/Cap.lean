import CallGuard.Proofs.Config.Validity
import CallGuard.Proofs.Duration.Seconds
import CallGuard.Proofs.Retry.Pace

/-! Delays and their cap. Whether a number of seconds reaches the cap is asked of the number of the
cap, which may be more than the cap itself; still no number below it is a nanosecond too long. So
no delay that grows passes its cap (`capped_le`), whatever it grows from and by, and the delays of
schedules and of valid settings stay within theirs (`within_cap`). -/

namespace CallGuard

namespace Backoff

open Binary64

variable {u : Nat} {cap : Duration}

/-- Seconds that do not reach the cap are fewer units. -/
theorem lt_units_of_not_le (hr : Representable u)
    (h : ¬le cap.toSeconds (.finite false u hr) = true) : u < cap.units := by
  rw [Duration.toSeconds_eq] at h
  simpa [le, signed] using h

/-- So many seconds or the cap are never more than the cap. -/
theorem capped_le (seconds : Binary64) (cap : Duration) :
    (capped seconds cap).nanos ≤ cap.nanos := by
  unfold capped
  split
  next => exact Nat.le_refl _
  next h =>
    cases seconds with
    | nan => exact absurd rfl h
    | infinite negative => exact absurd rfl h
    | finite negative u hr =>
      cases negative with
      | true => exact Nat.zero_le _
      | false =>
        refine Duration.nanos_ofSeconds_le hr (lt_units_of_not_le hr fun hle => h ?_)
        rw [hle, Bool.or_true]

theorem grow_le (delay : Duration) (multiplier : Binary64) (cap : Duration) :
    (grow delay multiplier cap).nanos ≤ cap.nanos := capped_le _ cap

/-- What grows from a delay within the cap stays within it. -/
theorem grown_le {delay cap : Duration} (h : delay.nanos ≤ cap.nanos) (multiplier : Binary64)
    (k : Nat) : (grown delay multiplier cap k).nanos ≤ cap.nanos := by
  cases k with
  | zero => exact h
  | succ k => exact grow_le _ multiplier cap

theorem still_zero : Still 0 := .inr ((le_iff value?_zero value?_zero).2 (le_refl _))

/-- Without jitter an exponential schedule delays by its base delays. -/
theorem Exponential.delay_of_still {p : Exponential} (h : Still p.factor) (pick : Sampler)
    (attempt : Nat) : p.delay pick attempt = p.base attempt := jitter_of_still h pick _

end Backoff

namespace Retry.Plan

/-- The delays of valid settings are in order. -/
theorem initial_le_of_valid {c : Config} (h : c.Valid) :
    (ofSettings c.retry).initial.nanos ≤ (ofSettings c.retry).cap.nanos :=
  Nat.mul_le_mul_right 1000000 (UInt64.le_iff_toNat_le.1 h.delays)

end Retry.Plan

namespace Backoff

open Binary64

/-- No delay that grows passes its cap, whatever numbers it grows from and by; neither do the
delays of an exponential schedule without jitter, nor the base delays of valid settings. -/
theorem within_cap :
    (∀ (delay cap : Duration) (multiplier : Binary64),
      (grow delay multiplier cap).nanos ≤ cap.nanos) ∧
    (∀ (p : Exponential) (pick : Sampler), Still p.factor →
      ∀ attempt, (p.delay pick attempt).nanos ≤ p.cap.nanos) ∧
    ∀ c : Config, c.violations = [] →
      ∀ k, ((Retry.Plan.ofSettings c.retry).base k).nanos ≤
        (Retry.Plan.ofSettings c.retry).cap.nanos := by
  refine ⟨fun delay cap multiplier => grow_le delay multiplier cap, fun p pick h attempt => ?_,
    fun c h k => ?_⟩
  · rw [p.delay_of_still h]
    exact capped_le _ p.cap
  · exact grown_le (Retry.Plan.initial_le_of_valid (c.violations_eq_nil_iff.1 h)) _ k

/-- A cap whose number is a second above it. -/
def roundedUp : Duration := .ofNanos 9007199254740995000000000

/-- A schedule with such a cap. -/
def long : Exponential := { cap := roundedUp, multiplier := ofQuotient 3 2, factor := 0 }

/-- Valid settings with the largest cap. -/
def longest : Config := { retry := { maxDelayMs := 18446744073709551615, randomizeFactor := 0 } }

theorem within_cap_long :
    roundedUp.nanos * one < roundedUp.units * 1000000000 ∧
      (∀ delay, (grow delay (ofQuotient 3 2) roundedUp).nanos ≤ roundedUp.nanos) ∧
      (∀ attempt, (long.delay Band.middle attempt).nanos ≤ roundedUp.nanos) ∧
      longest.violations = [] ∧
      ∀ k, ((Retry.Plan.ofSettings longest.retry).base k).nanos ≤
        (Retry.Plan.ofSettings longest.retry).cap.nanos := by
  have valid : longest.violations = [] := by decide +kernel
  exact ⟨by decide +kernel, fun delay => within_cap.1 delay roundedUp _,
    within_cap.2.1 long Band.middle still_zero, valid, within_cap.2.2 longest valid⟩

end Backoff

end CallGuard
