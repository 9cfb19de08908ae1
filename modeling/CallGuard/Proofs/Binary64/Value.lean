import CallGuard.Binary64.Basic
import Mathlib.Algebra.Order.Field.Basic
import Mathlib.Algebra.Order.Field.Rat

/-! The value of a finite number as a fraction. Numbers compare as their values do, an infinite one
lies beyond all of them on its side, and `nan` compares with nothing. -/

namespace CallGuard.Binary64

variable {x y z : Binary64} {p q r : ℚ}

/-- The value of the smallest positive number. -/
def unit : ℚ := (one : ℚ)⁻¹

/-- The value of a finite number. -/
def value? : Binary64 → Option ℚ
  | .nan => none
  | .infinite _ => none
  | .finite negative units _ => some (signed negative units * unit)

theorem cast_one_pos : (0 : ℚ) < one := Nat.cast_pos.2 (by decide +kernel)

theorem unit_pos : 0 < unit := inv_pos.2 cast_one_pos

theorem one_mul_unit : (one : ℚ) * unit = 1 := mul_inv_cancel₀ cast_one_pos.ne'

theorem isFinite_iff (x : Binary64) : x.isFinite = true ↔ ∃ q, x.value? = some q := by
  cases x with
  | finite n u h => exact iff_of_true rfl ⟨_, rfl⟩
  | _ => exact iff_of_false Bool.false_ne_true fun ⟨_, h⟩ => by cases h

theorem representable_zero : Representable 0 := by decide +kernel

theorem representable_one : Representable one := by decide +kernel

theorem ofNat_zero : (0 : Binary64) = .finite false 0 representable_zero := by decide +kernel

theorem ofNat_one : (1 : Binary64) = .finite false one representable_one := by decide +kernel

theorem value?_zero : (0 : Binary64).value? = some 0 := by
  rw [ofNat_zero]
  exact congrArg some (zero_mul unit)

theorem value?_one : (1 : Binary64).value? = some 1 := by
  rw [ofNat_one]
  exact congrArg some one_mul_unit

/-- Finite numbers compare as their values. -/
theorem le_iff (hx : x.value? = some p) (hy : y.value? = some q) : x.le y = true ↔ p ≤ q := by
  cases x with
  | finite n u hu =>
    cases y with
    | finite m v hv =>
      cases hx
      cases hy
      rw [mul_le_mul_iff_left₀ unit_pos, Int.cast_le]
      exact decide_eq_true_iff
    | _ => cases hy
  | _ => cases hx

theorem lt_iff (hx : x.value? = some p) (hy : y.value? = some q) : x.lt y = true ↔ p < q := by
  rw [lt, Bool.and_eq_true, Bool.not_eq_true', ← Bool.not_eq_true, le_iff hx hy, le_iff hy hx,
    lt_iff_le_not_ge]

/-- A number between two finite ones is finite. -/
theorem between_iff (hx : x.value? = some p) (hz : z.value? = some q) :
    (x.le y && y.le z) = true ↔ ∃ r, y.value? = some r ∧ p ≤ r ∧ r ≤ q := by
  cases hy : y.value? with
  | some r =>
    rw [Bool.and_eq_true, le_iff hx hy, le_iff hy hz]
    simp
  | none =>
    refine iff_of_false ?_ (by simp)
    cases x with
    | finite n u hu =>
      cases z with
      | finite m v hv =>
        cases y with
        | finite k w hw => cases hy
        | nan => simp [le]
        | infinite negative => cases negative <;> simp [le]
      | _ => cases hz
    | _ => cases hx

end CallGuard.Binary64
