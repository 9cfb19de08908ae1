import CallGuard.Binary64.Decimal
import Mathlib.Tactic.Ring

/-! When a ratio rounds to a given count of units. About a count lie two gaps, of which the lower
one is half as wide where the count is the first of its number of bits; a ratio between the
middles of the gaps has the count as its nearest, and so has a middle itself if the coefficient
of the count is even (`Near.nearest_eq`). -/

namespace CallGuard.Binary64

/-! ### Rounding to whole numbers -/

/-- A ratio within one half of a whole number rounds to it, at one half if it is even. -/
theorem roundHalfEven_eq {num den k : Nat} (pos : 0 < den)
    (low : 2 * (k * den) ≤ 2 * num + den) (high : 2 * num ≤ 2 * (k * den) + den)
    (odd : k % 2 = 1 → 2 * (k * den) < 2 * num + den ∧ 2 * num < 2 * (k * den) + den) :
    roundHalfEven num den = k := by
  have hr := Nat.mod_lt num pos
  have hsum : num / den * den + num % den = num := Nat.div_add_mod' num den
  have hle : num / den ≤ k := by
    by_contra hlt
    have hm := Nat.mul_le_mul_right den (show k + 1 ≤ num / den by omega)
    rw [Nat.succ_mul] at hm
    omega
  have hge : k ≤ num / den + 1 := by
    by_contra hlt
    have hm := Nat.mul_le_mul_right den (show num / den + 2 ≤ k by omega)
    rw [Nat.add_mul] at hm
    omega
  unfold roundHalfEven
  dsimp only
  -- the ratio lies in the half above the whole number, or in the half below it
  rcases Nat.lt_or_eq_of_le hle with hlt | heq
  · have hk : k = num / den + 1 := by omega
    have hm : k * den = num / den * den + den := by rw [hk, Nat.succ_mul]
    split
    next h => omega
    next h =>
      split
      next h' => omega
      next h' =>
        have hodd : ¬k % 2 = 1 := fun hodd => by
          have := (odd hodd).1
          omega
        omega
  · rw [heq] at hsum
    split
    next h => exact heq
    next h =>
      split
      next h' => omega
      next h' =>
        have hodd : ¬k % 2 = 1 := fun hodd => by
          have := (odd hodd).2
          omega
        omega

/-! ### The gaps about a count -/

/-- A count with so many bits in excess of 53, and no fewer. -/
theorem excess_eq {n e : Nat} (hlt : n < Nat.pow 2 (53 + e))
    (hle : e = 0 ∨ Nat.pow 2 (52 + e) ≤ n) : excess n = e := by
  have hub : bitLength n ≤ 53 + e := bitLength_le_iff.2 hlt
  rcases hle with rfl | hle
  · unfold excess
    omega
  · have hlb : ¬bitLength n ≤ 52 + e := fun h => Nat.not_lt.2 hle (bitLength_le_iff.1 h)
    unfold excess
    omega

theorem ulp_pos (n : Nat) : 0 < ulp n := Nat.two_pow_pos _

theorem lt_ulp (n : Nat) : n < Nat.pow 2 53 * ulp n := by
  have h := lt_two_pow_excess n
  rwa [Nat.pow_eq, Nat.pow_add] at h

/-- Counts of at most 53 bits are exact, and all others have just 53 significant ones. -/
theorem ulp_cases (n : Nat) : ulp n = 1 ∨ 1 < ulp n ∧ Nat.pow 2 52 * ulp n ≤ n := by
  rcases Nat.eq_zero_or_pos (excess n) with he | he
  · left
    rw [ulp, he]
  · right
    refine ⟨Nat.one_lt_two_pow (Nat.ne_of_gt he), ?_⟩
    have hlt : ¬bitLength n ≤ 52 + excess n := by
      unfold excess at he ⊢
      omega
    rw [bitLength_le_iff, Nat.pow_eq, Nat.pow_add, Nat.not_lt] at hlt
    exact hlt

/-- The value of the last bit of a count that is between two bounds. -/
theorem ulp_eq {n e : Nat} (hlt : n < Nat.pow 2 53 * Nat.pow 2 e)
    (hle : e = 0 ∨ Nat.pow 2 52 * Nat.pow 2 e ≤ n) : ulp n = Nat.pow 2 e := by
  rw [ulp, excess_eq (e := e)]
  · rwa [Nat.pow_eq, Nat.pow_add]
  · rwa [Nat.pow_eq, Nat.pow_add]

/-- The first count with as many bits as a count that has more than 53. -/
theorem two_pow_bitLength {n : Nat} (h : 1 < ulp n) :
    Nat.pow 2 (bitLength n - 1) = Nat.pow 2 52 * ulp n := by
  have he : excess n ≠ 0 := by
    intro he
    rw [ulp, he] at h
    exact absurd h (by decide)
  have hb : bitLength n - 1 = 52 + excess n := by
    unfold excess at he ⊢
    omega
  rw [hb, ulp, Nat.pow_eq, Nat.pow_add]
  rfl

/-- The gaps about a count: both of its last bit, but that the lower one is half as wide below
the first count of a number of bits. -/
theorem gaps_cases (u : Nat) :
    (gaps u = (2 * ulp u, 2 * ulp u) ∧ (ulp u = 1 ∨ Nat.pow 2 52 * ulp u < u)) ∨
    (gaps u = (ulp u, 2 * ulp u) ∧ 1 < ulp u ∧ u = Nat.pow 2 52 * ulp u) := by
  unfold gaps
  dsimp only
  split
  next h => exact .inr ⟨rfl, h.2, (two_pow_bitLength h.2) ▸ h.1⟩
  next h =>
    refine .inl ⟨rfl, ?_⟩
    rcases ulp_cases u with hone | ⟨hgt, hle⟩
    · exact .inl hone
    · refine .inr (Nat.lt_of_le_of_ne hle fun he => h ⟨?_, hgt⟩)
      rw [two_pow_bitLength hgt, he]

theorem gaps_snd (u : Nat) : (gaps u).2 = 2 * ulp u := by
  rcases gaps_cases u with ⟨he, -⟩ | ⟨he, -⟩ <;> rw [he]

/-- A count and its last bit stay within the bits of the count. -/
theorem add_ulp_le (hu : ulp u ∣ u) : u + ulp u ≤ Nat.pow 2 53 * ulp u := by
  obtain ⟨k, hk⟩ := hu
  have hlt : ulp u * k < ulp u * Nat.pow 2 53 := by
    rw [← hk, Nat.mul_comm]
    exact lt_ulp u
  have hle := Nat.mul_le_mul_left (ulp u) (Nat.succ_le_of_lt (Nat.lt_of_mul_lt_mul_left hlt))
  rw [Nat.mul_succ, ← hk, Nat.mul_comm (ulp u)] at hle
  exact hle

/-- A count beyond the first of its number of bits is so by its last bit. -/
theorem ulp_add_le (hu : ulp u ∣ u) (h : Nat.pow 2 52 * ulp u < u) :
    Nat.pow 2 52 * ulp u + ulp u ≤ u := by
  obtain ⟨k, hk⟩ := hu
  have hlt : ulp u * Nat.pow 2 52 < ulp u * k := by
    rw [← hk, Nat.mul_comm]
    exact h
  have hle := Nat.mul_le_mul_left (ulp u) (Nat.succ_le_of_lt (Nat.lt_of_mul_lt_mul_left hlt))
  rw [Nat.mul_succ, ← hk, Nat.mul_comm (ulp u)] at hle
  exact hle

/-- A ratio between the middles of the gaps about a count, on one of them only if the
coefficient of the count is even. -/
structure Near (u num den : Nat) : Prop where
  low : 4 * (u * den) ≤ 4 * num + (gaps u).1 * den
  high : 4 * num ≤ 4 * (u * den) + (gaps u).2 * den
  odd : u / ulp u % 2 = 1 → 4 * (u * den) < 4 * num + (gaps u).1 * den ∧
    4 * num < 4 * (u * den) + (gaps u).2 * den

/-- The nearest count on a grid to a ratio at whose place the counts have that grid. -/
theorem nearest_eq_of_ulp {u num den g k : Nat} (pos : 0 < den) (hg : 0 < g)
    (hu : ulp (num / den) = g) (hk : u = k * g)
    (low : 2 * (u * den) ≤ 2 * num + g * den) (high : 2 * num ≤ 2 * (u * den) + g * den)
    (odd : k % 2 = 1 → 2 * (u * den) < 2 * num + g * den ∧
      2 * num < 2 * (u * den) + g * den) : nearest num den = u := by
  have hm : k * (den * g) = u * den := by rw [hk]; ring
  have hd : den * g = g * den := Nat.mul_comm ..
  unfold nearest
  dsimp only
  rw [hu, roundHalfEven_eq (k := k) (Nat.mul_pos pos hg), hk]
  · omega
  · omega
  · rwa [hm, hd]

namespace Near

variable {u num den : Nat}

theorem num_lt (h : Near u num den) (pos : 0 < den) (hu : ulp u ∣ u) :
    num < Nat.pow 2 53 * ulp u * den := by
  have hle := Nat.mul_le_mul_right den (add_ulp_le hu)
  have hg := Nat.mul_pos (ulp_pos u) pos
  have hhigh := h.high
  rw [gaps_snd, Nat.mul_assoc] at hhigh
  rw [Nat.add_mul] at hle
  omega

/-- Unless the ratio lies in a narrow lower gap, the counts at its place have the last bit of
the count. -/
theorem ulp_div (h : Near u num den) (pos : 0 < den) (hu : ulp u ∣ u)
    (wide : u * den ≤ num ∨ (gaps u).1 = 2 * ulp u) : ulp (num / den) = ulp u := by
  have hg := ulp_pos u
  refine ulp_eq ((Nat.div_lt_iff_lt_mul pos).2 (h.num_lt pos hu)) ?_
  rcases ulp_cases u with hone | ⟨hgt, hle⟩
  · left
    by_contra he
    exact absurd hone (Nat.one_lt_two_pow he).ne'
  right
  refine (Nat.le_div_iff_mul_le pos).2 ?_
  rcases wide with hw | hw
  · exact (Nat.mul_le_mul_right den hle).trans hw
  · rcases gaps_cases u with ⟨-, hone | hlt⟩ | ⟨he, -⟩
    · omega
    · have hm := Nat.mul_le_mul_right den (ulp_add_le hu hlt)
      have hlow := h.low
      rw [hw, Nat.mul_assoc] at hlow
      rw [Nat.add_mul] at hm
      show Nat.pow 2 52 * ulp u * den ≤ num
      omega
    · rw [he] at hw
      omega

/-- In a narrow lower gap the counts are half as far apart as at the count. -/
theorem ulp_div_of_lt (h : Near u num den) (pos : 0 < den) (hgt : 1 < ulp u)
    (hu : u = Nat.pow 2 52 * ulp u) (hgap : (gaps u).1 = ulp u) (hlt : num < u * den) :
    ulp u = 2 * ulp (num / den) := by
  obtain ⟨e, he⟩ : ∃ e, excess u = e + 1 := by
    refine ⟨excess u - 1, ?_⟩
    by_contra h0
    have hz : excess u = 0 := by omega
    rw [ulp, hz] at hgt
    exact absurd hgt (by decide)
  have hhalf : ulp u = 2 * Nat.pow 2 e := by
    rw [ulp, he, Nat.pow_eq, Nat.pow_succ, Nat.mul_comm, Nat.pow_eq]
  have hfull : u = Nat.pow 2 53 * Nat.pow 2 e := by
    rw [hu, hhalf, ← Nat.mul_assoc]
  rw [hhalf, ulp_eq (e := e)]
  · exact (Nat.div_lt_iff_lt_mul pos).2 (hfull ▸ hlt)
  · refine .inr ((Nat.le_div_iff_mul_le pos).2 ?_)
    have hlow := h.low
    have h52 : Nat.pow 2 52 = 4503599627370496 := rfl
    have h53 : Nat.pow 2 53 = 9007199254740992 := rfl
    rw [hgap, hhalf, hfull, Nat.mul_assoc, Nat.mul_assoc, h53] at hlow
    rw [Nat.mul_assoc, h52]
    omega

/-- A ratio near a count rounds to it. -/
theorem nearest_eq (h : Near u num den) (pos : 0 < den) (hu : ulp u ∣ u) :
    nearest num den = u := by
  have hg := ulp_pos u
  have hgd := Nat.mul_pos hg pos
  have hhigh := h.high
  have hlow := h.low
  have hodd := h.odd
  obtain ⟨k, hk⟩ := id hu
  rw [Nat.div_eq_of_eq_mul_right hg hk] at hodd
  rw [gaps_snd, Nat.mul_assoc] at hhigh hodd
  rcases gaps_cases u with ⟨he, -⟩ | ⟨he, hgt, hpow⟩
  · -- both gaps are full
    rw [he, Nat.mul_assoc] at hlow hodd
    refine nearest_eq_of_ulp pos hg (h.ulp_div pos hu (.inr (by rw [he]))) (k := k)
      (by rw [Nat.mul_comm, ← hk]) (by omega) (by omega) ?_
    intro hk
    have ho := hodd hk
    omega
  rcases Nat.lt_or_ge num (u * den) with hlt | hge
  · -- the lower gap is narrow, and the coefficient on its grid is even
    have hhalf := h.ulp_div_of_lt pos hgt hpow (by rw [he]) hlt
    rw [he, hhalf, Nat.mul_assoc] at hlow
    refine nearest_eq_of_ulp pos (ulp_pos _) rfl (k := Nat.pow 2 53) ?_ (by omega) (by omega) ?_
    · rw [hpow, hhalf, ← Nat.mul_assoc]
    · intro hk
      exact absurd hk (by decide)
  · refine nearest_eq_of_ulp pos hg (h.ulp_div pos hu (.inl hge)) (k := k)
      (by rw [Nat.mul_comm, ← hk]) (by omega) (by omega) ?_
    intro hk
    have ho := hodd hk
    omega

end Near

end CallGuard.Binary64
