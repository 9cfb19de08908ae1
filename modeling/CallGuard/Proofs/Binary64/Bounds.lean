import CallGuard.Proofs.Binary64.Power

/-! Sums, differences and products between bounds that need no rounding. Rounding keeps order, so a
part of a number is rounded to no more than the number, and what is left of it without a part is not
negative and no more than it; with a part it is the number at least and its double at most. -/

namespace CallGuard.Binary64

-- No power of two is to be multiplied out.
attribute [local irreducible] one overflow

variable {u v : Nat}

/-- A product with a number up to one is no more than the number. -/
theorem exists_mul (hu : Representable u) (hv : Representable v) (h : v ≤ one) :
    ∃ n hn, n ≤ u ∧ finite false u hu * finite false v hv = finite false n hn := by
  have hle := nearest_le one_pos hu.2 (Nat.mul_le_mul_left u h)
  exact ⟨_, representable_nearest hu.1 hle, hle, ofRatio_eq _ rfl⟩

/-- A difference with no more than the number is no more than the number and not negative. -/
theorem exists_sub (hu : Representable u) (hv : Representable v) (h : v ≤ u) :
    ∃ n hn, n ≤ u ∧ finite false u hu - finite false v hv = finite false n hn := by
  have hle := nearest_le Nat.one_pos hu.2 (show u - v ≤ u * 1 by omega)
  have hcount : signed false u + signed true v = ((u - v : Nat) : Int) := by
    change (u : Int) + -(v : Int) = _
    omega
  refine ⟨_, representable_nearest hu.1 hle, hle, ?_⟩
  change ofSigned false (signed false u + signed true v) = _
  rw [hcount, ofSigned_natCast]
  exact ofRatio_eq _ rfl

/-- A sum with no more than the number is between the number and its double. -/
theorem exists_add (hu : Representable u) (hv : Representable v) (h : v ≤ u)
    (room : 2 * u < overflow) :
    ∃ n hn, u ≤ n ∧ n ≤ 2 * u ∧ finite false u hu + finite false v hv = finite false n hn := by
  have hdouble : ulp (2 * u) ∣ 2 * u := by
    rw [Nat.mul_comm]
    exact ulp_dvd_mul_two_pow hu.2 1
  have hlow := le_nearest Nat.one_pos hu.2 (show u * 1 ≤ u + v by omega)
  have hhigh := nearest_le Nat.one_pos hdouble (show u + v ≤ 2 * u * 1 by omega)
  refine ⟨_, representable_nearest room hhigh, hlow, hhigh, ?_⟩
  exact (ofSigned_natCast (u + v)).trans (ofRatio_eq _ rfl)

end CallGuard.Binary64
