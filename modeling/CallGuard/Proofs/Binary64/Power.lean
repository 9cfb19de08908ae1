import CallGuard.Binary64.Arith
import CallGuard.Proofs.Binary64.Monotone
import CallGuard.Proofs.Binary64.Shortest

/-! Powers of two. A count times a power of two needs no rounding if the count needs none, so a
product with such a power is exact up to where it is infinite (`mul_two_pow`), and repeated
squaring comes to the power of two itself (`powNat_two`). -/

namespace CallGuard.Binary64

variable {negative : Bool} {u num den num' den' : Nat}

/-! ### Counts that are powers of two

The exponents are told by equations, so that no power is multiplied out. -/

theorem one_eq_pow {e : Nat} (he : e = 1074) : one = Nat.pow 2 e := by
  delta one
  exact congrArg _ he.symm

theorem overflow_eq_pow {e : Nat} (he : e = 2098) : overflow = Nat.pow 2 e := by
  delta overflow
  exact congrArg _ he.symm

attribute [local irreducible] one overflow

theorem exists_one_eq_pow : ∃ e, one = Nat.pow 2 e := by
  obtain ⟨e, he⟩ : ∃ e, e = 1074 := ⟨1074, rfl⟩
  exact ⟨e, one_eq_pow he⟩

/-- Whole numbers of up to 53 bits are exact. -/
theorem ulp_dvd_mul_one {n : Nat} (h : n ≤ Nat.pow 2 53) : ulp (n * one) ∣ n * one := by
  obtain ⟨e, he⟩ := exists_one_eq_pow
  rw [he]
  exact ulp_dvd h

/-! ### Exact counts -/

theorem ofRatio_congr (h : nearest num den = nearest num' den') :
    ofRatio negative num den = ofRatio negative num' den' := by
  by_cases hlt : nearest num den < overflow
  · have hr : Representable (nearest num den) := ⟨hlt, ulp_dvd_nearest num den⟩
    rw [ofRatio_eq hr rfl, ofRatio_eq hr h.symm]
  · rw [ofRatio, dif_neg hlt, ofRatio, dif_neg (h ▸ hlt)]

/-- The number of a ratio that is a count. -/
theorem ofRatio_mul (pos : 0 < den) (hu : ulp u ∣ u) :
    ofRatio negative (u * den) den = ofRatio negative u 1 :=
  ofRatio_congr ((nearest_mul pos hu).trans (nearest_one hu).symm)

theorem ofRatio_of_representable (hr : Representable u) :
    ofRatio negative u 1 = .finite negative u hr := ofRatio_eq hr (nearest_one hr.2)

theorem ofRatio_of_overflow (hu : ulp u ∣ u) (h : overflow ≤ u) :
    ofRatio negative u 1 = .infinite negative := by
  rw [ofRatio, dif_neg]
  rw [nearest_one hu]
  exact Nat.not_lt.2 h

/-- A count that is not negative is the number nearest to it. -/
theorem ofSigned_natCast (n : Nat) : ofSigned false n = ofRatio false n 1 := by
  unfold ofSigned
  split
  next h =>
    rw [Int.natCast_eq_zero.1 h]
  next h =>
    rw [Int.natAbs_natCast, decide_eq_false (by omega)]

/-! ### Powers of two as numbers -/

/-- The powers of two that are too large begin with the exponent 1024. -/
theorem overflow_le_two_pow_iff {k : Nat} : overflow ≤ Nat.pow 2 k * one ↔ 1024 ≤ k := by
  obtain ⟨e, he⟩ : ∃ e, e = 1074 := ⟨1074, rfl⟩
  have hpow : Nat.pow 2 k * Nat.pow 2 e = Nat.pow 2 (k + e) := (Nat.pow_add ..).symm
  rw [one_eq_pow he, overflow_eq_pow (e := 1024 + e) (by omega), hpow]
  exact (Nat.pow_le_pow_iff_right (by decide)).trans Nat.add_le_add_iff_right

theorem ulp_dvd_two_pow_mul_one (k : Nat) : ulp (Nat.pow 2 k * one) ∣ Nat.pow 2 k * one := by
  obtain ⟨e, he⟩ := exists_one_eq_pow
  have hpow : Nat.pow 2 k * Nat.pow 2 e = Nat.pow 2 (k + e) := (Nat.pow_add ..).symm
  rw [he, hpow]
  exact ulp_dvd_two_pow (k + e)

theorem representable_two_pow {k : Nat} (h : k < 1024) : Representable (Nat.pow 2 k * one) :=
  ⟨Nat.not_le.1 fun hle => Nat.not_le.2 h (overflow_le_two_pow_iff.1 hle),
    ulp_dvd_two_pow_mul_one k⟩

theorem ofNat_two_pow {k : Nat} (h : k < 1024) :
    ofNat (Nat.pow 2 k) = .finite false (Nat.pow 2 k * one) (representable_two_pow h) :=
  ofRatio_of_representable _

theorem ofNat_two_pow_of_le {k : Nat} (h : 1024 ≤ k) : ofNat (Nat.pow 2 k) = .infinite false :=
  ofRatio_of_overflow (ulp_dvd_two_pow_mul_one k) (overflow_le_two_pow_iff.2 h)

/-! ### Products and powers -/

/-- A product with a finite power of two is exact. -/
theorem mul_two_pow (hr : Representable u) {k : Nat} (h : k < 1024) :
    .finite false u hr * ofNat (Nat.pow 2 k) = ofRatio false (u * Nat.pow 2 k) 1 := by
  rw [ofNat_two_pow h]
  change ofRatio false (u * (Nat.pow 2 k * one)) one = _
  rw [← Nat.mul_assoc]
  exact ofRatio_mul one_pos (ulp_dvd_mul_two_pow hr.2 k)

theorem finite_mul_infinite (hr : Representable u) :
    Binary64.finite false u hr * Binary64.infinite false =
      if u = 0 then .nan else .infinite false := by
  change (if (decide (u = 0) || false) = true then Binary64.nan else _) = _
  simp only [Bool.or_false, decide_eq_true_eq]
  rfl

theorem infinite_mul_finite (hr : Representable u) :
    Binary64.infinite false * Binary64.finite false u hr =
      if u = 0 then .nan else .infinite false := by
  change (if (false || decide (u = 0)) = true then Binary64.nan else _) = _
  simp only [Bool.false_or, decide_eq_true_eq]
  rfl

theorem two_pow_mul_one_ne_zero (k : Nat) : Nat.pow 2 k * one ≠ 0 :=
  Nat.ne_of_gt (Nat.mul_pos (Nat.two_pow_pos k) one_pos)

theorem two_pow_mul_two_pow (a b : Nat) :
    ofNat (Nat.pow 2 a) * ofNat (Nat.pow 2 b) = ofNat (Nat.pow 2 (a + b)) := by
  rcases Nat.lt_or_ge a 1024 with ha | ha
  · rcases Nat.lt_or_ge b 1024 with hb | hb
    · rw [ofNat_two_pow ha, mul_two_pow _ hb, ofNat]
      refine congrArg (ofRatio false · 1) ?_
      simp only [Nat.pow_eq, Nat.pow_add]
      ring
    · rw [ofNat_two_pow ha, ofNat_two_pow_of_le hb, ofNat_two_pow_of_le (by omega),
        finite_mul_infinite, if_neg (two_pow_mul_one_ne_zero a)]
  · rw [ofNat_two_pow_of_le ha, ofNat_two_pow_of_le (k := a + b) (by omega)]
    rcases Nat.lt_or_ge b 1024 with hb | hb
    · rw [ofNat_two_pow hb, infinite_mul_finite, if_neg (two_pow_mul_one_ne_zero b)]
    · rw [ofNat_two_pow_of_le hb]
      rfl

/-- What the squaring of a power of two accumulates. -/
theorem powLoop_two_pow (a b k : Nat) :
    powLoop (ofNat (Nat.pow 2 a)) (ofNat (Nat.pow 2 b)) k = ofNat (Nat.pow 2 (b + a * k)) := by
  induction k using Nat.strongRecOn generalizing a b with
  | ind k ih =>
    have hacc : (if k % 2 = 1 then ofNat (Nat.pow 2 b) * ofNat (Nat.pow 2 a)
        else ofNat (Nat.pow 2 b)) = ofNat (Nat.pow 2 (b + a * (k % 2))) := by
      rcases Nat.mod_two_eq_zero_or_one k with he | ho
      · rw [he, if_neg (by decide), Nat.mul_zero, Nat.add_zero]
      · rw [ho, if_pos rfl, Nat.mul_one, two_pow_mul_two_pow]
    have hk : k = 2 * (k / 2) + k % 2 := (Nat.div_add_mod k 2).symm
    rw [powLoop, hacc]
    split
    next h =>
      rw [h] at hk
      rw [show k % 2 = k by omega]
    next h =>
      rw [two_pow_mul_two_pow, ih (k / 2) (by omega)]
      congr 2
      conv => rhs; rw [hk]
      ring

/-- Powers of two are powers of two. -/
theorem powNat_two (k : Nat) : powNat 2 k = ofNat (Nat.pow 2 k) := by
  have h := powLoop_two_pow 1 0 k
  rwa [Nat.zero_add, Nat.one_mul] at h

end CallGuard.Binary64
