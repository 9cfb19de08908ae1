import CallGuard.Duration
import CallGuard.Proofs.Binary64.Power
import CallGuard.Proofs.Binary64.Value
import Mathlib.Tactic.Linarith
import Mathlib.Tactic.LinearCombination

/-! Durations as numbers of seconds. The number of a duration is a count of units that is rounded
three times: for the whole seconds, for the fraction, and for their sum (`toSeconds_eq`). A number
below that of a duration is no more than the duration in nanoseconds (`nanos_ofSeconds_le`),
although the number of the duration may be above it. Seconds turn into the nearest nanosecond
(`nearest_ofSeconds`), and more of them into no fewer (`ofSeconds_mono`). -/

namespace CallGuard.Duration

open Binary64

-- No power of two is to be multiplied out.
attribute [local irreducible] one

variable {d : Duration} {u num den : Nat}

/-- Units in the whole seconds. -/
def wholeUnits (d : Duration) : Nat := nearest (d.nanos / 1000000000 * one) 1

/-- Units in the fraction of a second. -/
def fractionUnits (d : Duration) : Nat := nearest (d.nanos % 1000000000 * one) 1000000000

/-- Units in a duration. -/
def units (d : Duration) : Nat := nearest (d.wholeUnits + d.fractionUnits) 1

/-- The value of the last bit just below one. -/
@[irreducible] def grain : Nat := one / 9007199254740992

/-! ### The size of the parts -/

theorem exists_grain_eq_pow : ∃ e, grain = Nat.pow 2 e ∧ one = 9007199254740992 * Nat.pow 2 e := by
  obtain ⟨e, he⟩ : ∃ e, e = 1021 := ⟨1021, rfl⟩
  have hone : one = 9007199254740992 * Nat.pow 2 e := by
    rw [one_eq_pow (e := 53 + e) (by omega), Nat.pow_eq, Nat.pow_add]
    rfl
  refine ⟨e, ?_, hone⟩
  rw [grain, hone]
  exact Nat.mul_div_cancel_left _ (by decide)

theorem one_eq_mul_grain : one = 9007199254740992 * grain := by
  obtain ⟨e, hgrain, hone⟩ := exists_grain_eq_pow
  rw [hgrain, hone]

theorem grain_pos : 0 < grain := by
  obtain ⟨e, hgrain, -⟩ := exists_grain_eq_pow
  rw [hgrain]
  exact Nat.two_pow_pos e

theorem grain_lt_one : grain * 1000000000 < one := by
  rw [one_eq_mul_grain, Nat.mul_comm]
  exact Nat.mul_lt_mul_of_pos_right (by decide) grain_pos

theorem ulp_dvd_belowOne : ulp (one - grain) ∣ one - grain := by
  have hcoefficient : one - grain = 9007199254740991 * grain := by
    have hone := one_eq_mul_grain
    omega
  obtain ⟨e, hgrain, -⟩ := exists_grain_eq_pow
  rw [hcoefficient, hgrain]
  exact ulp_dvd (by decide)

/-- A fraction of a second is not rounded to a second. -/
theorem fractionUnits_lt (d : Duration) : d.fractionUnits < one := by
  have hn : d.nanos % 1000000000 ≤ 999999999 := by omega
  have hone := one_eq_mul_grain
  have hpos := grain_pos
  have hle : d.fractionUnits ≤ one - grain := nearest_le (by decide) ulp_dvd_belowOne <|
    (Nat.mul_le_mul_right one hn).trans (by omega)
  omega

theorem seconds_le (d : Duration) : d.nanos / 1000000000 ≤ 18446744073709551616 := by
  have h := d.nanos_le
  unfold maxNanos UInt64.size at h
  omega

theorem wholeUnits_le (d : Duration) : d.wholeUnits ≤ 18446744073709551616 * one := by
  refine nearest_le Nat.one_pos (ulp_dvd_two_pow_mul_one 64) ?_
  rw [Nat.mul_one]
  exact Nat.mul_le_mul_right one d.seconds_le

theorem units_le (d : Duration) : d.units ≤ 36893488147419103232 * one := by
  refine nearest_le Nat.one_pos (ulp_dvd_two_pow_mul_one 65) ?_
  have hw := d.wholeUnits_le
  have hf := d.fractionUnits_lt
  omega

/-- Seconds of a duration can be doubled. -/
theorem two_mul_units_lt (d : Duration) : 2 * d.units < overflow := by
  have hle := d.units_le
  have hlt : 73786976294838206464 * one < overflow :=
    (representable_two_pow (k := 66) (by decide)).1
  omega

theorem representable_of_le (h : nearest num den ≤ 36893488147419103232 * one) :
    Representable (nearest num den) :=
  representable_nearest (representable_two_pow (k := 65) (by decide)).1 h

theorem representable_wholeUnits (d : Duration) : Representable d.wholeUnits := by
  have h := d.wholeUnits_le
  exact representable_of_le (by rw [← wholeUnits]; omega)

theorem representable_fractionUnits (d : Duration) : Representable d.fractionUnits := by
  have h := d.fractionUnits_lt
  exact representable_of_le (by rw [← fractionUnits]; omega)

theorem representable_units (d : Duration) : Representable d.units := representable_of_le d.units_le

/-- The seconds of a duration are a finite number. -/
theorem toSeconds_eq (d : Duration) :
    d.toSeconds = .finite false d.units d.representable_units := by
  have hw : Binary64.ofNat (d.nanos / 1000000000) =
      .finite false d.wholeUnits d.representable_wholeUnits := ofRatio_eq _ rfl
  have hf : ofQuotient (d.nanos % 1000000000) 1000000000 =
      .finite false d.fractionUnits d.representable_fractionUnits := ofRatio_eq _ rfl
  rw [toSeconds, hw, hf]
  exact (ofSigned_natCast _).trans (ofRatio_eq _ rfl)

/-! ### Nearest nanoseconds -/

theorem nanos_ofSeconds (hr : Representable u) :
    (ofSeconds (.finite false u hr)).nanos = min (roundHalfEven (u * 1000000000) one) maxNanos :=
  rfl

/-- More seconds are no fewer nanoseconds. -/
theorem ofSeconds_mono {x y : Binary64} (h : le x y = true) :
    (ofSeconds x).nanos ≤ (ofSeconds y).nanos := by
  cases x with
  | nan => exact Nat.zero_le _
  | infinite negative =>
    cases negative with
    | true => exact Nat.zero_le _
    | false =>
      cases y with
      | infinite negative =>
        cases negative with
        | true => cases h
        | false => exact Nat.le_refl _
      | _ => cases h
  | finite negative u hu =>
    cases negative with
    | true => exact Nat.zero_le _
    | false =>
      cases y with
      | nan => cases h
      | infinite negative =>
        cases negative with
        | true => cases h
        | false => exact (ofSeconds _).nanos_le
      | finite negative v hv =>
        have hle : signed false u ≤ signed negative v := of_decide_eq_true h
        cases negative with
        | true =>
          -- both are zero
          change (u : Int) ≤ -(v : Int) at hle
          obtain rfl : u = 0 := by omega
          have hpos := Binary64.one_pos
          have hround : roundHalfEven (0 * 1000000000) one ≤ 0 :=
            roundHalfEven_le Binary64.one_pos (by omega)
          exact (Nat.min_le_left _ _).trans hround
        | false =>
          rw [nanos_ofSeconds, nanos_ofSeconds]
          have hround := roundHalfEven_mono Binary64.one_pos
            (Nat.mul_le_mul_right 1000000000 (Int.ofNat_le.1 hle))
          omega

/-- The nearest nanosecond to so many seconds, the even one in the middle of two, or the longest
duration where they are more. -/
def Nearest (d : Duration) (seconds : ℚ) : Prop :=
  2 * |d.nanos - seconds * 1000000000| < 1 ∨
    2 * |d.nanos - seconds * 1000000000| = 1 ∧ d.nanos % 2 = 0 ∨
    d = longest ∧ maxNanos ≤ seconds * 1000000000

/-- The error of so many units is half a nanosecond at most. -/
theorem abs_roundHalfEven_sub_le (u : Nat) :
    |(roundHalfEven (u * 1000000000) one : ℚ) - u * unit * 1000000000| ≤ 1 / 2 := by
  have herr := roundHalfEven_error (u * 1000000000) Binary64.one_pos
  generalize roundHalfEven (u * 1000000000) one = n at herr
  have hlow : (2 * (n * one) : ℚ) ≤ 2 * (u * 1000000000) + one := by exact_mod_cast herr.1
  have hhigh : (2 * (u * 1000000000) : ℚ) ≤ 2 * (n * one) + one := by exact_mod_cast herr.2
  have hlow' := mul_le_mul_of_nonneg_right hlow unit_pos.le
  have hhigh' := mul_le_mul_of_nonneg_right hhigh unit_pos.le
  have hn : (n : ℚ) * one * unit = n := by rw [mul_assoc, one_mul_unit, mul_one]
  rw [abs_le]
  constructor <;> linarith only [hlow', hhigh', hn, one_mul_unit]

/-- If it is that much, the nanosecond is even. -/
theorem roundHalfEven_even_of_abs (u : Nat)
    (h : |(roundHalfEven (u * 1000000000) one : ℚ) - u * unit * 1000000000| = 1 / 2) :
    roundHalfEven (u * 1000000000) one % 2 = 0 := by
  refine roundHalfEven_even Binary64.one_pos ?_
  generalize roundHalfEven (u * 1000000000) one = n at h
  rcases eq_or_eq_neg_of_abs_eq h with h | h
  · left
    have heq : (2 * (n * one) : ℚ) = 2 * (u * 1000000000) + one := by
      linear_combination 2 * one * h + 2 * u * 1000000000 * one_mul_unit
    exact_mod_cast heq
  · right
    have heq : (2 * (u * 1000000000) : ℚ) = 2 * (n * one) + one := by
      linear_combination -2 * one * h - 2 * u * 1000000000 * one_mul_unit
    exact_mod_cast heq

/-- A count of units turns into the nearest nanosecond. -/
theorem nearest_ofSeconds_finite (hr : Representable u) :
    (ofSeconds (.finite false u hr)).Nearest (u * unit) := by
  have herr := abs_roundHalfEven_sub_le u
  unfold Nearest
  rcases Nat.lt_or_ge maxNanos (roundHalfEven (u * 1000000000) one) with hlt | hle
  · right; right
    refine ⟨ext_nanos (Nat.min_eq_right hlt.le), ?_⟩
    have hcast : (maxNanos + 1 : ℚ) ≤ roundHalfEven (u * 1000000000) one := by exact_mod_cast hlt
    linarith only [hcast, (abs_le.1 herr).2]
  · rw [nanos_ofSeconds, Nat.min_eq_left hle]
    rcases lt_or_eq_of_le herr with hlt | heq
    · left
      linarith only [hlt]
    · right; left
      exact ⟨by linarith only [heq], roundHalfEven_even_of_abs u heq⟩

/-- Seconds that are not negative turn into the nearest nanosecond. -/
theorem nearest_ofSeconds {x : Binary64} {q : ℚ} (hx : x.value? = some q) (hq : 0 ≤ q) :
    (ofSeconds x).Nearest q := by
  cases x with
  | nan => cases hx
  | infinite negative => cases hx
  | finite negative u hu =>
    cases negative with
    | true =>
      obtain rfl : -(u : ℚ) * unit = q := by simpa [value?, signed] using hx
      have hle := mul_nonneg u.cast_nonneg unit_pos.le
      have hzero : -(u : ℚ) * unit = 0 := by linarith only [hq, hle]
      left
      rw [hzero]
      simp [ofSeconds, zero]
    | false =>
      obtain rfl : (u : ℚ) * unit = q := Option.some.inj hx
      exact nearest_ofSeconds_finite hu

theorem nanos_mul_one (d : Duration) : d.nanos * one =
    d.nanos / 1000000000 * one * 1000000000 + d.nanos % 1000000000 * one := by
  conv => lhs; rw [← Nat.div_add_mod d.nanos 1000000000]
  ring

/-- The whole seconds are exact if they have few bits. -/
theorem wholeUnits_eq (h : d.nanos / 1000000000 ≤ 9007199254740992) :
    d.wholeUnits = d.nanos / 1000000000 * one := by
  exact nearest_one (ulp_dvd_mul_one h)

/-- If they have many, the fraction is lost. -/
theorem units_eq_wholeUnits (h : 9007199254740992 ≤ d.nanos / 1000000000) :
    d.units = d.wholeUnits := by
  refine nearest_add_of_lt (ulp_dvd_nearest _ _) ?_
  have hw : 9007199254740992 * one ≤ d.wholeUnits := by
    refine le_nearest Nat.one_pos (ulp_dvd_mul_one (by decide)) ?_
    rw [Nat.mul_one]
    exact Nat.mul_le_mul_right one h
  have hulp := ulp_le_ulp hw
  have hone : ulp (9007199254740992 * one) = 2 * one := by
    obtain ⟨e, he⟩ := exists_one_eq_pow
    have hpow : Nat.pow 2 (1 + e) = 2 * Nat.pow 2 e := Nat.pow_add ..
    have hpos : 0 < Nat.pow 2 e := Nat.two_pow_pos e
    rw [he, ← hpow]
    exact ulp_eq (show _ < 9007199254740992 * Nat.pow 2 (1 + e) by omega)
      (.inr (show 4503599627370496 * Nat.pow 2 (1 + e) ≤ _ by omega))
  have hf := d.fractionUnits_lt
  omega

/-- The error of the fraction of a second. -/
theorem fractionUnits_error (d : Duration) :
    2 * (d.fractionUnits * 1000000000) ≤
        2 * (d.nanos % 1000000000 * one) + grain * 1000000000 ∧
      2 * (d.nanos % 1000000000 * one) ≤
        2 * (d.fractionUnits * 1000000000) + grain * 1000000000 := by
  have hlt : d.nanos % 1000000000 * one / 1000000000 < one := by
    rw [Nat.div_lt_iff_lt_mul (by decide), Nat.mul_comm]
    exact Nat.mul_lt_mul_of_pos_left (Nat.mod_lt _ (by decide)) one_pos
  have hulp : ulp (d.nanos % 1000000000 * one / 1000000000) ≤ grain := by
    obtain ⟨e, hgrain, hone⟩ := exists_grain_eq_pow
    rw [hgrain]
    exact ulp_le_of_lt (hlt.trans_eq hone)
  have hm := Nat.mul_le_mul_right 1000000000 hulp
  have herr := nearest_error (d.nanos % 1000000000 * one) (show 0 < 1000000000 by decide)
  exact ⟨herr.1.trans (Nat.add_le_add_left hm _), herr.2.trans (Nat.add_le_add_left hm _)⟩

/-- A number below that of a duration is less than half a nanosecond above the duration. -/
theorem lt_of_lt_units (hu : ulp u ∣ u) (h : u < d.units) :
    2 * (u * 1000000000) < (2 * d.nanos + 1) * one := by
  have hnanos : (2 * d.nanos + 1) * one = 2 * (d.nanos / 1000000000 * one * 1000000000) +
      2 * (d.nanos % 1000000000 * one) + one := by
    rw [Nat.add_mul, Nat.mul_assoc, nanos_mul_one]
    omega
  rcases Nat.le_total (d.nanos / 1000000000) 9007199254740992 with hs | hs
  · have hsum := lt_of_lt_nearest Nat.one_pos hu h
    have herr := d.fractionUnits_error.1
    have hgrain := grain_lt_one
    rw [wholeUnits_eq hs] at hsum
    omega
  · rw [units_eq_wholeUnits hs] at h
    have hlt := lt_of_lt_nearest Nat.one_pos hu h
    have hone := one_pos
    omega

/-- A number below that of a duration is no longer than it in nanoseconds. -/
theorem nanos_ofSeconds_le (hr : Representable u) (h : u < d.units) :
    (ofSeconds (.finite false u hr)).nanos ≤ d.nanos := by
  rw [nanos_ofSeconds]
  exact (Nat.min_le_left _ _).trans (roundHalfEven_le one_pos (lt_of_lt_units hr.2 h))

/-! ### Doubled seconds -/

theorem units_of_zero (h : d.nanos = 0) : d.units = 0 := by
  rw [units, wholeUnits, fractionUnits, h, Nat.zero_div, Nat.zero_mod, Nat.zero_mul]
  rfl

theorem wholeUnits_le_units (d : Duration) : d.wholeUnits ≤ d.units :=
  le_nearest Nat.one_pos (ulp_dvd_nearest _ _) (by omega)

/-- A fraction of a second after whole seconds leaves the value of their last bit. -/
theorem ulp_add_fraction_le {s x : Nat} (hs : s ≠ 0) (hx : x < one) :
    ulp (s * one + x) ≤ ulp (s * one) := by
  obtain ⟨e, he⟩ := exists_one_eq_pow
  rw [he] at hx ⊢
  have hlt := lt_two_pow_bitLength (s * Nat.pow 2 e)
  generalize hb : bitLength (s * Nat.pow 2 e) = b at hlt
  have hpow : Nat.pow 2 e < Nat.pow 2 b :=
    (Nat.le_mul_of_pos_left _ (Nat.pos_of_ne_zero hs)).trans_lt hlt
  have hle : e ≤ b := Nat.le_of_lt ((Nat.pow_lt_pow_iff_right (by decide)).1 hpow)
  obtain ⟨c, rfl⟩ := Nat.exists_eq_add_of_le' hle
  have hsplit : Nat.pow 2 (c + e) = Nat.pow 2 c * Nat.pow 2 e := Nat.pow_add ..
  rw [hsplit] at hlt
  have hsucc := Nat.mul_le_mul_right (Nat.pow 2 e) (Nat.lt_of_mul_lt_mul_right hlt)
  rw [Nat.succ_mul] at hsucc
  have hbits : bitLength (s * Nat.pow 2 e + x) ≤ bitLength (s * Nat.pow 2 e) := by
    rw [hb, bitLength_le_iff, hsplit]
    omega
  exact Nat.pow_le_pow_right (by decide) (Nat.sub_le_sub_right hbits 53)

/-- The value of the last bit of the exact number of seconds. -/
def lastBit (d : Duration) : Nat := ulp (d.nanos * one / 1000000000)

/-- Unless there are many seconds, the three roundings together err by no more than a last bit. -/
theorem units_error (h : d.nanos / 1000000000 ≤ 9007199254740992) :
    d.units * 1000000000 ≤ d.nanos * one + d.lastBit * 1000000000 ∧
      d.nanos * one ≤ d.units * 1000000000 + d.lastBit * 1000000000 := by
  have hexact := d.nanos_mul_one
  have hfraction := nearest_error (d.nanos % 1000000000 * one) (show 0 < 1000000000 by decide)
  rw [← fractionUnits] at hfraction
  have hulp : ulp (d.nanos % 1000000000 * one / 1000000000) ≤ d.lastBit :=
    ulp_le_ulp (Nat.div_le_div_right (by omega))
  have hwhole := wholeUnits_eq h
  rcases Nat.eq_zero_or_pos (d.nanos / 1000000000) with hs | hs
  · have hunits : d.units = d.fractionUnits := by
      rw [units, hwhole, hs, Nat.zero_mul, Nat.zero_add]
      exact nearest_one (ulp_dvd_nearest _ _)
    rw [hs] at hexact
    omega
  · have hsum := nearest_error (d.wholeUnits + d.fractionUnits) Nat.one_pos
    rw [← units, Nat.div_one, hwhole] at hsum
    have hle : d.nanos / 1000000000 * one ≤ d.nanos * one / 1000000000 :=
      (Nat.le_div_iff_mul_le (by decide)).2 (by omega)
    have hlast := (ulp_add_fraction_le (Nat.ne_of_gt hs) d.fractionUnits_lt).trans (ulp_le_ulp hle)
    rw [← lastBit] at hlast
    omega

theorem two_pow_twentyTwo_mul_one {e : Nat} (he : e = 1096) : 4194304 * one = Nat.pow 2 e := by
  obtain ⟨c, hc⟩ : ∃ c, c = 1074 := ⟨1074, rfl⟩
  have hsplit : Nat.pow 2 (22 + c) = 4194304 * Nat.pow 2 c := Nat.pow_add ..
  rw [one_eq_pow hc, show e = 22 + c by omega, hsplit]

/-- The bits of seconds that come to less than `2 ^ 22` when doubled. -/
theorem bitLength_seconds_le {e j : Nat} (he : e = 1096) (hj : j ≤ e)
    (h : d.nanos * Nat.pow 2 j < 4194304 * 1000000000) :
    bitLength (d.nanos * one / 1000000000) ≤ e - j := by
  rw [bitLength_le_iff, Nat.div_lt_iff_lt_mul (by decide)]
  refine Nat.lt_of_mul_lt_mul_right (a := Nat.pow 2 j) ?_
  calc d.nanos * one * Nat.pow 2 j = d.nanos * Nat.pow 2 j * one := by ring
    _ < 4194304 * 1000000000 * one := Nat.mul_lt_mul_of_pos_right h one_pos
    _ = 4194304 * one * 1000000000 := by ring
    _ = Nat.pow 2 (e - j + j) * 1000000000 := by
        rw [two_pow_twentyTwo_mul_one he, Nat.sub_add_cancel hj]
    _ = Nat.pow 2 (e - j) * 1000000000 * Nat.pow 2 j := by
        simp only [Nat.pow_eq, Nat.pow_add]
        ring

/-- The last bit of doubled seconds, if they come to less than `2 ^ 22`, is worth less than half
a nanosecond. -/
theorem lastBit_mul_lt {j : Nat} (pos : 0 < d.nanos)
    (h : d.nanos * Nat.pow 2 j < 4194304 * 1000000000) :
    2 * (d.lastBit * Nat.pow 2 j * 1000000000) < one := by
  obtain ⟨t, ht⟩ : ∃ t, t = 1043 := ⟨1043, rfl⟩
  have hhalf : 2 * (Nat.pow 2 t * 1000000000) < one := by
    have hsplit : Nat.pow 2 (31 + t) = 2147483648 * Nat.pow 2 t := Nat.pow_add ..
    have hpos : 0 < Nat.pow 2 t := Nat.two_pow_pos t
    rw [one_eq_pow (e := 31 + t) (by omega), hsplit]
    omega
  have hj : j < 52 := by
    have hlt : Nat.pow 2 j < Nat.pow 2 52 :=
      (Nat.le_mul_of_pos_left _ pos).trans_lt (h.trans (by decide))
    exact (Nat.pow_lt_pow_iff_right (by decide)).1 hlt
  have hlen := bitLength_seconds_le (e := t + 53) (by omega) (by omega) h
  have hpow : d.lastBit * Nat.pow 2 j ≤ Nat.pow 2 t := by
    have hexcess : excess (d.nanos * one / 1000000000) + j ≤ t := by
      unfold excess
      omega
    calc d.lastBit * Nat.pow 2 j = Nat.pow 2 (excess (d.nanos * one / 1000000000) + j) :=
          (Nat.pow_add ..).symm
      _ ≤ Nat.pow 2 t := Nat.pow_le_pow_right (by decide) hexcess
  exact (Nat.mul_le_mul_left 2 (Nat.mul_le_mul_right 1000000000 hpow)).trans_lt hhalf

/-- Doubled seconds, if they come to less than `2 ^ 22`, err by less than half a nanosecond. -/
theorem units_mul_error {j : Nat} (h : d.nanos * Nat.pow 2 j < 4194304 * 1000000000) :
    2 * (d.units * Nat.pow 2 j * 1000000000) < 2 * (d.nanos * Nat.pow 2 j * one) + one ∧
      2 * (d.nanos * Nat.pow 2 j * one) < 2 * (d.units * Nat.pow 2 j * 1000000000) + one := by
  have hone := one_pos
  rcases Nat.eq_zero_or_pos d.nanos with hz | pos
  · rw [units_of_zero hz, hz]
    omega
  have hlast := lastBit_mul_lt pos h
  have hle : d.nanos ≤ d.nanos * Nat.pow 2 j := Nat.le_mul_of_pos_right _ (Nat.two_pow_pos j)
  have herr := units_error (d := d) (by omega)
  have hhigh := Nat.mul_le_mul_right (Nat.pow 2 j) herr.1
  have hlow := Nat.mul_le_mul_right (Nat.pow 2 j) herr.2
  rw [Nat.add_mul, Nat.mul_right_comm d.units, Nat.mul_right_comm d.nanos,
    Nat.mul_right_comm d.lastBit] at hhigh hlow
  omega

/-- They are the doubled delay, to the nearest nanosecond. -/
theorem roundHalfEven_units_mul {j : Nat} (h : d.nanos * Nat.pow 2 j < 4194304 * 1000000000) :
    roundHalfEven (d.units * Nat.pow 2 j * 1000000000) one = d.nanos * Nat.pow 2 j := by
  have herr := units_mul_error h
  exact roundHalfEven_eq one_pos (Nat.le_of_lt herr.2) (Nat.le_of_lt herr.1)
    fun _ => ⟨herr.2, herr.1⟩

/-! ### Seconds up to `2 ^ 22` -/

/-- A power of two that is no more than a duration is no more than its number. -/
theorem two_pow_le_units {i : Nat} (hs : d.nanos / 1000000000 ≤ 9007199254740992)
    (h : Nat.pow 2 i * 1000000000 ≤ d.nanos * one) : Nat.pow 2 i ≤ d.units := by
  rcases Nat.eq_zero_or_pos (d.nanos / 1000000000) with hz | pos
  · -- all of the duration is in the fraction
    have hmod : d.nanos % 1000000000 = d.nanos := by omega
    have hle : Nat.pow 2 i ≤ d.fractionUnits := by
      rw [fractionUnits, hmod]
      exact le_nearest (by decide) (ulp_dvd_two_pow i) h
    rw [units, wholeUnits_eq hs, hz, Nat.zero_mul, Nat.zero_add]
    exact hle.trans_eq (nearest_one (ulp_dvd_nearest _ _)).symm
  · refine Nat.le_trans ?_ d.wholeUnits_le_units
    rw [wholeUnits_eq hs]
    obtain ⟨e, he⟩ := exists_one_eq_pow
    rw [he] at h ⊢
    rcases Nat.le_total i e with hi | hi
    · exact (Nat.pow_le_pow_right (by decide) hi).trans (Nat.le_mul_of_pos_left _ pos)
    · obtain ⟨c, rfl⟩ := Nat.exists_eq_add_of_le' hi
      have hsplit : Nat.pow 2 (c + e) = Nat.pow 2 c * Nat.pow 2 e := Nat.pow_add ..
      rw [hsplit] at h ⊢
      rw [Nat.mul_right_comm] at h
      have hle := Nat.le_of_mul_le_mul_right h (Nat.two_pow_pos e)
      exact Nat.mul_le_mul_right _ ((Nat.le_div_iff_mul_le (by decide)).2 hle)

theorem units_le_of_le (h : d.nanos ≤ 4194304 * 1000000000) : d.units ≤ 4194304 * one := by
  refine nearest_le Nat.one_pos (ulp_dvd_mul_one (by decide)) ?_
  rw [Nat.mul_one, wholeUnits_eq (by omega)]
  rcases Nat.lt_or_ge (d.nanos / 1000000000) 4194304 with hlt | hge
  · have hf := d.fractionUnits_lt
    have hm := Nat.mul_le_mul_right one (Nat.succ_le_of_lt hlt)
    rw [Nat.succ_mul] at hm
    omega
  · have hf : d.fractionUnits = 0 := by
      rw [fractionUnits, show d.nanos % 1000000000 = 0 by omega, Nat.zero_mul]
      rfl
    rw [hf]
    exact Nat.mul_le_mul_right one (by omega)

/-- Up to `2 ^ 22` seconds the number is less than half a nanosecond below the duration. -/
theorem lt_units_of_le (h : d.nanos ≤ 4194304 * 1000000000) :
    2 * (d.nanos * one) < 2 * (d.units * 1000000000) + one := by
  rcases Nat.lt_or_eq_of_le h with hlt | heq
  · have herr := units_mul_error (j := 0) (by rwa [Nat.pow_eq, Nat.pow_zero, Nat.mul_one])
    simp only [Nat.pow_eq, Nat.pow_zero, Nat.mul_one] at herr
    exact herr.2
  · have hle := d.wholeUnits_le_units
    rw [wholeUnits_eq (by omega)] at hle
    have hone := one_pos
    rw [heq] at hle ⊢
    omega

/-- A delay doubled to less than another, of up to `2 ^ 22` seconds, has the lesser number. -/
theorem units_mul_lt {cap : Duration} {j : Nat} (hcap : cap.nanos ≤ 4194304 * 1000000000)
    (h : d.nanos * Nat.pow 2 j < cap.nanos) : d.units * Nat.pow 2 j < cap.units := by
  have hdoubled := (units_mul_error (h.trans_le hcap)).1
  have hlow := lt_units_of_le hcap
  have hm := Nat.mul_le_mul_right one (Nat.succ_le_of_lt h)
  rw [Nat.succ_mul] at hm
  omega

/-- A delay doubled to `2 ^ 22` seconds has a number of at least so many. -/
theorem le_units_mul {j : Nat} (hj : j < 1024) (hs : d.nanos ≤ 4194304 * 1000000000)
    (h : 4194304 * 1000000000 ≤ d.nanos * Nat.pow 2 j) : 4194304 * one ≤ d.units * Nat.pow 2 j := by
  obtain ⟨e, he⟩ : ∃ e, e = 1096 := ⟨1096, rfl⟩
  have hbits := two_pow_twentyTwo_mul_one he
  have hsplit : Nat.pow 2 e = Nat.pow 2 (e - j) * Nat.pow 2 j := by
    rw [Nat.pow_eq, Nat.pow_eq, Nat.pow_eq, ← Nat.pow_add, Nat.sub_add_cancel (by omega)]
  rw [hbits, hsplit]
  refine Nat.mul_le_mul_right _ (two_pow_le_units (by omega) ?_)
  refine Nat.le_of_mul_le_mul_right ?_ (Nat.two_pow_pos j)
  calc Nat.pow 2 (e - j) * 1000000000 * Nat.pow 2 j = 4194304 * 1000000000 * one := by
        rw [Nat.mul_right_comm, ← hsplit, ← hbits]
        ring
    _ ≤ d.nanos * Nat.pow 2 j * one := Nat.mul_le_mul_right one h
    _ = d.nanos * one * Nat.pow 2 j := Nat.mul_right_comm ..

end CallGuard.Duration
