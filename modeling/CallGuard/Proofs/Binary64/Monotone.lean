import CallGuard.Proofs.Binary64.Rounding

/-! Rounding keeps order. A ratio below a count that needs no rounding is not rounded beyond it, nor
is one above it (`nearest_le`, `le_nearest`), so such counts are rounded to themselves. The error is
half the value of the last bit at most (`nearest_error`), and what is less than that half is lost in
a sum (`nearest_add_of_lt`). -/

namespace CallGuard.Binary64

variable {u v m n num den : Nat}

/-! ### Rounding to whole numbers -/

/-- The error is one half at most. -/
theorem roundHalfEven_error (num : Nat) (pos : 0 < den) :
    2 * (roundHalfEven num den * den) ≤ 2 * num + den ∧
      2 * num ≤ 2 * (roundHalfEven num den * den) + den := by
  have hr := Nat.mod_lt num pos
  have hsum : num / den * den + num % den = num := Nat.div_add_mod' num den
  have hsucc : (num / den + 1) * den = num / den * den + den := Nat.succ_mul ..
  unfold roundHalfEven
  dsimp only
  split
  next h => omega
  next h =>
    split
    next h' => omega
    next h' =>
      -- in the middle it is the one or the other
      rcases Nat.mod_two_eq_zero_or_one (num / den) with he | ho
      · rw [he, Nat.add_zero]
        omega
      · rw [ho]
        omega

/-- What has an error of one half is even. -/
theorem roundHalfEven_even (pos : 0 < den)
    (h : 2 * (roundHalfEven num den * den) = 2 * num + den ∨
      2 * num = 2 * (roundHalfEven num den * den) + den) : roundHalfEven num den % 2 = 0 := by
  have hr := Nat.mod_lt num pos
  have hsum : num / den * den + num % den = num := Nat.div_add_mod' num den
  have hsucc : (num / den + 1) * den = num / den * den + den := Nat.succ_mul ..
  unfold roundHalfEven at h ⊢
  dsimp only at h ⊢
  split at h
  next h' => omega
  next h' =>
    split at h
    next h'' => omega
    next h'' =>
      rw [if_neg h', if_neg h'']
      omega

/-- A ratio below the middle above a whole number is not rounded beyond it. -/
theorem roundHalfEven_le (pos : 0 < den) (h : 2 * num < (2 * n + 1) * den) :
    roundHalfEven num den ≤ n := by
  have herr := (roundHalfEven_error num pos).1
  by_contra hlt
  have hle := Nat.mul_le_mul_right den (Nat.not_le.1 hlt)
  rw [Nat.succ_mul] at hle
  rw [Nat.add_mul, Nat.mul_assoc] at h
  omega

/-- A ratio is not rounded beyond a greater one. -/
theorem roundHalfEven_mono (pos : 0 < den) (h : m ≤ n) :
    roundHalfEven m den ≤ roundHalfEven n den := by
  have hm := (roundHalfEven_error m pos).1
  have hn := (roundHalfEven_error n pos).2
  by_contra hlt
  have hle := Nat.mul_le_mul_right den (Nat.not_le.1 hlt)
  rw [Nat.succ_mul] at hle
  -- only one ratio is as far from both
  obtain rfl : m = n := by omega
  exact hlt (Nat.le_refl _)

/-! ### Last bits -/

theorem bitLength_mono (h : m ≤ n) : bitLength m ≤ bitLength n :=
  bitLength_le_iff.2 (Nat.lt_of_le_of_lt h (lt_two_pow_bitLength n))

/-- The last bit of a count is worth no less than that of a smaller one. -/
theorem ulp_dvd_ulp (h : m ≤ n) : ulp m ∣ ulp n :=
  Nat.pow_dvd_pow 2 (Nat.sub_le_sub_right (bitLength_mono h) 53)

theorem ulp_le_ulp (h : m ≤ n) : ulp m ≤ ulp n := Nat.le_of_dvd (ulp_pos n) (ulp_dvd_ulp h)

/-- The value of the last bit of a count with no more than so many bits. -/
theorem ulp_le_of_lt {e : Nat} (h : n < Nat.pow 2 53 * Nat.pow 2 e) : ulp n ≤ Nat.pow 2 e := by
  have hbits : bitLength n ≤ 53 + e := by
    rw [bitLength_le_iff, Nat.pow_eq, Nat.pow_add]
    exact h
  refine Nat.pow_le_pow_right (by decide) ?_
  unfold excess
  omega

/-- Powers of two need no rounding. -/
theorem ulp_dvd_two_pow (e : Nat) : ulp (Nat.pow 2 e) ∣ Nat.pow 2 e := by
  have h := ulp_dvd (r := 1) (e := e) (by decide)
  rwa [Nat.one_mul] at h

/-- Nor do counts that need none, times a power of two. -/
theorem ulp_dvd_mul_two_pow (hu : ulp u ∣ u) (e : Nat) :
    ulp (u * Nat.pow 2 e) ∣ u * Nat.pow 2 e := by
  have hcoefficient : u / ulp u * Nat.pow 2 (excess u) = u := Nat.div_mul_cancel hu
  have hpow : u * Nat.pow 2 e = u / ulp u * Nat.pow 2 (excess u + e) :=
    calc u * Nat.pow 2 e = u / ulp u * Nat.pow 2 (excess u) * Nat.pow 2 e :=
          congrArg (· * Nat.pow 2 e) hcoefficient.symm
      _ = u / ulp u * (Nat.pow 2 (excess u) * Nat.pow 2 e) := Nat.mul_assoc ..
      _ = u / ulp u * Nat.pow 2 (excess u + e) := congrArg _ (Nat.pow_add ..).symm
  rw [hpow]
  exact ulp_dvd (Nat.le_of_lt (div_ulp_lt u))

/-! ### Rounding to counts -/

/-- A ratio is not rounded beyond a count above it. -/
theorem nearest_le (pos : 0 < den) (hu : ulp u ∣ u) (h : num ≤ u * den) : nearest num den ≤ u := by
  have hq : num / den ≤ u := Nat.div_le_of_le_mul (by rwa [Nat.mul_comm])
  obtain ⟨k, hk⟩ := Nat.dvd_trans (ulp_dvd_ulp hq) hu
  have hg := ulp_pos (num / den)
  have hle : roundHalfEven num (den * ulp (num / den)) ≤ k := by
    refine roundHalfEven_le (Nat.mul_pos pos hg) ?_
    have hnum : num ≤ k * (den * ulp (num / den)) := by
      calc num ≤ u * den := h
        _ = ulp (num / den) * k * den := congrArg (· * den) hk
        _ = k * (den * ulp (num / den)) := by ring
    have hpos := Nat.mul_pos pos hg
    rw [Nat.add_mul, Nat.mul_assoc]
    omega
  calc nearest num den ≤ k * ulp (num / den) := Nat.mul_le_mul_right _ hle
    _ = u := by rw [Nat.mul_comm, ← hk]

/-- A ratio is not rounded beyond a count below it. -/
theorem le_nearest (pos : 0 < den) (hu : ulp u ∣ u) (h : u * den ≤ num) : u ≤ nearest num den := by
  have hq : u ≤ num / den := (Nat.le_div_iff_mul_le pos).2 h
  have hg := ulp_pos (num / den)
  have hround : num / den / ulp (num / den) ≤ roundHalfEven num (den * ulp (num / den)) := by
    rw [Nat.div_div_eq_div_mul]
    exact le_roundHalfEven _ _
  rcases Nat.eq_or_lt_of_le (ulp_le_ulp hq) with heq | hlt
  · -- the counts at the ratio have the same last bit as the count
    calc u = u / ulp u * ulp u := (Nat.div_mul_cancel hu).symm
      _ ≤ num / den / ulp (num / den) * ulp (num / den) := by
          rw [heq]
          exact Nat.mul_le_mul_right _ (Nat.div_le_div_right hq)
      _ ≤ nearest num den := Nat.mul_le_mul_right _ hround
  · -- they begin beyond the count
    have hgt : 1 < ulp (num / den) := Nat.lt_of_le_of_lt (ulp_pos u) hlt
    have hfull := ((ulp_cases (num / den)).resolve_left (Nat.ne_of_gt hgt)).2
    have hhalf : 2 * ulp u ≤ ulp (num / den) := by
      obtain ⟨k, hk⟩ := ulp_dvd_ulp hq
      have hk2 : 2 ≤ k := by
        by_contra hk1
        have hle := Nat.mul_le_mul_left (ulp u) (show k ≤ 1 by omega)
        omega
      have hle := Nat.mul_le_mul_left (ulp u) hk2
      omega
    calc u ≤ Nat.pow 2 53 * ulp u := Nat.le_of_lt (lt_ulp u)
      _ = Nat.pow 2 52 * (2 * ulp u) := (Nat.mul_assoc (Nat.pow 2 52) 2 (ulp u))
      _ ≤ Nat.pow 2 52 * ulp (num / den) := Nat.mul_le_mul_left _ hhalf
      _ ≤ num / den / ulp (num / den) * ulp (num / den) :=
          Nat.mul_le_mul_right _ ((Nat.le_div_iff_mul_le hg).2 hfull)
      _ ≤ nearest num den := Nat.mul_le_mul_right _ hround

/-- What is rounded to no more than a finite count is finite. -/
theorem representable_nearest (hu : u < overflow) (h : nearest num den ≤ u) :
    Representable (nearest num den) :=
  ⟨h.trans_lt hu, ulp_dvd_nearest num den⟩

/-- A ratio that is a count is rounded to it. -/
theorem nearest_mul (pos : 0 < den) (hu : ulp u ∣ u) : nearest (u * den) den = u :=
  Nat.le_antisymm (nearest_le pos hu (Nat.le_refl _)) (le_nearest pos hu (Nat.le_refl _))

theorem nearest_one (hu : ulp u ∣ u) : nearest u 1 = u := by
  have h := nearest_mul Nat.one_pos hu
  rwa [Nat.mul_one] at h

/-- What is rounded to more than a count is more. -/
theorem lt_of_lt_nearest (pos : 0 < den) (hu : ulp u ∣ u) (h : u < nearest num den) :
    u * den < num :=
  Nat.not_le.1 fun hle => Nat.not_le.2 h (nearest_le pos hu hle)

/-- The error is half the value of the last bit at most. -/
theorem nearest_error (num : Nat) (pos : 0 < den) :
    2 * (nearest num den * den) ≤ 2 * num + ulp (num / den) * den ∧
      2 * num ≤ 2 * (nearest num den * den) + ulp (num / den) * den := by
  have h := roundHalfEven_error num (Nat.mul_pos pos (ulp_pos (num / den)))
  have hm : roundHalfEven num (den * ulp (num / den)) * (den * ulp (num / den)) =
      nearest num den * den := by
    unfold nearest
    ring
  rw [hm, Nat.mul_comm den (ulp _)] at h
  exact h

/-- Less than half the last bit of a count is lost in a sum with it. -/
theorem nearest_add_of_lt (hu : ulp u ∣ u) (h : 2 * v < ulp u) : nearest (u + v) 1 = u := by
  refine Near.nearest_eq ?_ Nat.one_pos hu
  have hgap : 0 < (gaps u).1 := by
    have hg := ulp_pos u
    rcases gaps_cases u with ⟨he, -⟩ | ⟨he, -⟩
    · rw [he]
      exact Nat.mul_pos (by decide) hg
    · rw [he]
      exact hg
  constructor
  case low => omega
  case high => rw [gaps_snd]; omega
  case odd => intro _; rw [gaps_snd]; omega

end CallGuard.Binary64
