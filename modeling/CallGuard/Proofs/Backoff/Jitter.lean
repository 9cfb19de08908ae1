import CallGuard.Proofs.Binary64.Bounds
import CallGuard.Proofs.Duration.Seconds
import CallGuard.Proofs.Retry.Pace

/-! Jittered delays. A band about a delay reaches from zero at the least to twice the seconds of the
delay at the most, whatever the delay and the factor, so it always is one to pick from
(`exists_about`). Nearest nanoseconds keep order: what is picked from the band stays between the
nearest nanoseconds to its ends (`jittered`). -/

namespace CallGuard

namespace Backoff

open Binary64

-- No power of two is to be multiplied out.
attribute [local irreducible] one overflow

variable {delay : Duration} {factor x middle reach : Binary64} {b : Band}

/-! ### Bands to pick from -/

/-- The numbers of a band, its ends included. -/
def Band.Holds (b : Band) (x : Binary64) : Prop := le b.low x = true ∧ le x b.high = true

/-- A band that is neither empty nor infinite. -/
def Band.Proper (b : Band) : Prop :=
  le b.low b.high = true ∧ b.low.isFinite = true ∧ b.high.isFinite = true ∧
    (b.high - b.low).isFinite = true

instance (b : Band) : Decidable b.Proper := inferInstanceAs (Decidable (_ ∧ _))

/-- The number picked from a band, if the band is one to pick from. -/
def Band.pick? (pick : Sampler) (b : Band) : Option Binary64 :=
  if b.Proper then some (pick b) else none

/-- A delay moved within its band, if the band is one to pick from. -/
def jitter? (pick : Sampler) (delay : Duration) (factor : Binary64) : Option Duration :=
  match jitterBand? delay factor with
  | none => some delay
  | some band => (band.pick? pick).map Duration.ofSeconds

/-- A band that reaches as far to both sides of a number, not below zero and not beyond the double
of the number. -/
structure Band.About (b : Band) (middle reach : Binary64) : Prop where
  low : b.low = middle - reach
  high : b.high = middle + reach
  ordered : ∃ p q r : ℚ, b.low.value? = some p ∧ middle.value? = some q ∧ b.high.value? = some r ∧
    0 ≤ p ∧ p ≤ q ∧ q ≤ r ∧ r ≤ 2 * q
  proper : b.Proper

/-- What a band holds is a number that is not negative. -/
theorem Band.About.exists_value (h : b.About middle reach) (hx : b.Holds x) :
    ∃ q, x.value? = some q ∧ 0 ≤ q := by
  obtain ⟨p, -, r, hp, -, hr, hzero, -⟩ := h.ordered
  obtain ⟨q, hq, hle, -⟩ := (between_iff hp hr).1 (Bool.and_eq_true_iff.2 hx)
  exact ⟨q, hq, hzero.trans hle⟩

/-! ### The band of a delay -/

/-- Delays and factors for which there is no band. -/
def Unmoved (delay : Duration) (factor : Binary64) : Prop := delay.nanos = 0 ∨ Still factor

/-- The part of a delay that a factor stands for, one at most. -/
def part (factor : Binary64) : Binary64 := if lt factor 1 then factor else 1

/-- How far the band of a delay reaches. -/
def spread (delay : Duration) (factor : Binary64) : Binary64 := delay.toSeconds * part factor

theorem jitterBand?_of_unmoved (h : Unmoved delay factor) : jitterBand? delay factor = none := by
  rw [jitterBand?, if_pos]
  rcases h with h | h | h <;> simp [h]

theorem jitterBand?_of_not_unmoved (h : ¬Unmoved delay factor) : jitterBand? delay factor =
    some ⟨delay.toSeconds - spread delay factor, delay.toSeconds + spread delay factor⟩ := by
  rw [jitterBand?, if_neg]
  · rfl
  · simpa [Unmoved, Still, or_assoc] using h

/-- A factor that does not leave delays alone stands for a part of up to one. -/
theorem exists_part (h : ¬Still factor) : ∃ v hv, v ≤ one ∧ part factor = .finite false v hv := by
  by_cases hlt : lt factor 1 = true
  · have hpart : part factor = factor := if_pos hlt
    rw [ofNat_one] at hlt
    cases factor with
    | nan => exact absurd (.inl rfl) h
    | infinite negative =>
      cases negative with
      | true =>
        refine absurd (.inr ?_) h
        rw [ofNat_zero]
        rfl
      | false => cases hlt
    | finite negative v hv =>
      cases negative with
      | true =>
        refine absurd (.inr ?_) h
        rw [ofNat_zero]
        simp [le, signed]
      | false =>
        refine ⟨v, hv, ?_, hpart⟩
        simp [lt, le, signed] at hlt
        omega
  · exact ⟨one, _, Nat.le_refl _, (if_neg hlt).trans ofNat_one⟩

/-- So it reaches no further than the delay. -/
theorem exists_spread (delay : Duration) (h : ¬Still factor) :
    ∃ n hn, n ≤ delay.units ∧ spread delay factor = .finite false n hn := by
  obtain ⟨v, hv, hone, hpart⟩ := exists_part h
  obtain ⟨n, hn, hle, hmul⟩ := exists_mul delay.representable_units hv hone
  refine ⟨n, hn, hle, ?_⟩
  rw [spread, hpart, delay.toSeconds_eq, hmul]

theorem exists_about (h : ¬Unmoved delay factor) :
    ∃ b, jitterBand? delay factor = some b ∧ b.About delay.toSeconds (spread delay factor) := by
  have hm := delay.representable_units
  obtain ⟨n, hn, hle, hspread⟩ := exists_spread delay fun hs => h (.inr hs)
  obtain ⟨l, hl, hlow, hsub⟩ := exists_sub hm hn hle
  obtain ⟨r, hr, hhigh, hdouble, hadd⟩ := exists_add hm hn hle delay.two_mul_units_lt
  obtain ⟨w, hw, -, hwidth⟩ := exists_sub hr hl (hlow.trans hhigh)
  refine ⟨_, jitterBand?_of_not_unmoved h, ?_⟩
  rw [delay.toSeconds_eq, hspread]
  refine ⟨rfl, rfl, ?_, ?_⟩
  · have scaled {a b : Nat} (hab : a ≤ b) : (a : ℚ) * unit ≤ b * unit :=
      mul_le_mul_of_nonneg_right (Nat.cast_le.2 hab) unit_pos.le
    refine ⟨l * unit, delay.units * unit, r * unit, congrArg value? hsub, rfl, congrArg value? hadd,
      mul_nonneg l.cast_nonneg unit_pos.le, scaled hlow, scaled hhigh, ?_⟩
    rw [← mul_assoc, ← Nat.cast_ofNat, ← Nat.cast_mul]
    exact scaled hdouble
  · rw [Band.Proper, hadd, hsub, hwidth]
    exact ⟨decide_eq_true (Int.ofNat_le.2 (hlow.trans hhigh)), rfl, rfl, rfl⟩

/-! ### Jittered delays -/

theorem jitter_of_unmoved (h : Unmoved delay factor) (pick : Sampler) :
    jitter pick delay factor = delay := by
  rw [jitter, jitterBand?_of_unmoved h]

theorem jitter_of_band (h : jitterBand? delay factor = some b) (pick : Sampler) :
    jitter pick delay factor = Duration.ofSeconds (pick b) := by
  rw [jitter, h]

/-- A band there is is one about the delay. -/
theorem about_of_band (h : jitterBand? delay factor = some b) :
    b.About delay.toSeconds (spread delay factor) := by
  have hmoved : ¬Unmoved delay factor := fun hu => by
    rw [jitterBand?_of_unmoved hu] at h
    cases h
  obtain ⟨c, hc, habout⟩ := exists_about hmoved
  rw [h] at hc
  cases hc
  exact habout

theorem jitter?_eq (pick : Sampler) (delay : Duration) (factor : Binary64) :
    jitter? pick delay factor = some (jitter pick delay factor) := by
  cases hb : jitterBand? delay factor with
  | none => rw [jitter?, jitter, hb]
  | some b =>
    have hpick : b.pick? pick = some (pick b) := if_pos (about_of_band hb).proper
    rw [jitter?, jitter_of_band hb, hb]
    exact congrArg (Option.map Duration.ofSeconds) hpick

/-- How a factor jitters a delay. -/
structure Jittered (delay : Duration) (factor : Binary64) : Prop where
  /-- No delay, and a factor that is no positive number, leave the delay as it is. -/
  unmoved : Unmoved delay factor → ∀ pick, jitter pick delay factor = delay
  /-- Otherwise there is a band about the seconds of the delay, neither empty nor infinite. -/
  band : ¬Unmoved delay factor →
    ∃ b, jitterBand? delay factor = some b ∧ b.About delay.toSeconds (spread delay factor)
  /-- So picking never fails. -/
  picked : ∀ pick, jitter? pick delay factor = some (jitter pick delay factor)
  /-- A number of the band is not negative, and the delay becomes the nearest nanosecond to it. -/
  nearest : ∀ b pick, jitterBand? delay factor = some b → b.Holds (pick b) →
    ∃ q, (pick b).value? = some q ∧ 0 ≤ q ∧ (jitter pick delay factor).Nearest q
  /-- That is between the nearest nanoseconds to the ends of the band. -/
  within : ∀ b pick, jitterBand? delay factor = some b → b.Holds (pick b) →
    (Duration.ofSeconds b.low).nanos ≤ (jitter pick delay factor).nanos ∧
      (jitter pick delay factor).nanos ≤ (Duration.ofSeconds b.high).nanos
  /-- The greater the number, the longer the delay. -/
  rising : ∀ b pick pick', jitterBand? delay factor = some b → le (pick b) (pick' b) = true →
    (jitter pick delay factor).nanos ≤ (jitter pick' delay factor).nanos

/-- Any factor jitters any delay so. -/
theorem jittered (delay : Duration) (factor : Binary64) : Jittered delay factor where
  unmoved := jitter_of_unmoved
  band := exists_about
  picked pick := jitter?_eq pick delay factor
  nearest b pick hb hx := by
    obtain ⟨q, hq, hzero⟩ := (about_of_band hb).exists_value hx
    rw [jitter_of_band hb]
    exact ⟨q, hq, hzero, Duration.nearest_ofSeconds hq hzero⟩
  within b pick hb hx := by
    rw [jitter_of_band hb]
    exact ⟨Duration.ofSeconds_mono hx.1, Duration.ofSeconds_mono hx.2⟩
  rising b pick pick' hb hle := by
    rw [jitter_of_band hb, jitter_of_band hb]
    exact Duration.ofSeconds_mono hle

/-- The widest band is cut off at the longest duration. -/
example : jitterBand? .longest 3 = some ⟨0, ofNat (Nat.pow 2 65)⟩ ∧
    jitter Band.low .longest 3 = .zero ∧ jitter Band.high .longest 3 = .longest := by decide +kernel

end Backoff

end CallGuard
