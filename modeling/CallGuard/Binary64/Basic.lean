/-! Binary64 numbers and their rounding. A finite magnitude is a whole count of
units of `2⁻¹⁰⁷⁴`, the smallest positive number, so every exact sum, product and
quotient is a ratio of two naturals, and `nearest` brings such a ratio back to at
most 53 significant bits, a tie going to the even neighbour. Subnormal numbers need
no case of their own: a count below `2 ^ 53` is never rounded to fewer bits. -/

namespace CallGuard

namespace Binary64

/-! ### Counts of units -/

/-- Length of the binary numeral, `0` for zero. -/
def bitLength (n : Nat) : Nat := if n = 0 then 0 else n.log2 + 1

/-- Low bits of a count that lie beyond the 53 significant ones. -/
def excess (n : Nat) : Nat := bitLength n - 53

/-- The value of the last of the significant bits of a count. -/
def ulp (n : Nat) : Nat := Nat.pow 2 (excess n)

/-- The first count too large for a finite number: `2 ^ 1024` in units. -/
def overflow : Nat := Nat.pow 2 2098

/-- Units in the number one. -/
def one : Nat := Nat.pow 2 1074

/-- The counts that are magnitudes of finite numbers. -/
def Representable (units : Nat) : Prop := units < overflow ∧ ulp units ∣ units

instance (units : Nat) : Decidable (Representable units) :=
  inferInstanceAs (Decidable (_ ∧ _))

theorem lt_two_pow_bitLength (n : Nat) : n < Nat.pow 2 (bitLength n) := by
  unfold bitLength
  split
  · simp [*]
  · exact Nat.lt_log2_self

theorem bitLength_le_iff {n k : Nat} : bitLength n ≤ k ↔ n < Nat.pow 2 k := by
  constructor
  · intro h
    exact Nat.lt_of_lt_of_le (lt_two_pow_bitLength n) (Nat.pow_le_pow_right (by decide) h)
  · intro h
    unfold bitLength
    split
    · exact Nat.zero_le k
    · next hn => exact (Nat.log2_lt hn).2 h

theorem lt_two_pow_excess (n : Nat) : n < Nat.pow 2 (53 + excess n) := by
  refine bitLength_le_iff.1 ?_
  unfold excess
  omega

/-! ### Rounding -/

/-- The ratio rounded to a whole number, a tie going to the even neighbour. -/
def roundHalfEven (num den : Nat) : Nat :=
  let q := num / den
  let r := num % den
  if 2 * r < den then q else if den < 2 * r then q + 1 else q + q % 2

theorem roundHalfEven_le_succ (num den : Nat) : roundHalfEven num den ≤ num / den + 1 := by
  unfold roundHalfEven
  dsimp only
  split
  · omega
  · split <;> omega

theorem le_roundHalfEven (num den : Nat) : num / den ≤ roundHalfEven num den := by
  unfold roundHalfEven
  dsimp only
  split
  · omega
  · split <;> omega

/-- The ratio rounded to a count with at most 53 significant bits. -/
def nearest (num den : Nat) : Nat :=
  let grid := ulp (num / den)
  roundHalfEven num (den * grid) * grid

theorem div_ulp_lt (n : Nat) : n / ulp n < Nat.pow 2 53 := by
  unfold ulp
  rw [Nat.pow_eq, Nat.pow_eq, Nat.div_lt_iff_lt_mul (Nat.two_pow_pos _), ← Nat.pow_add]
  exact lt_two_pow_excess n

/-- A coefficient of up to `2 ^ 53` and a power of two make a count of 53 significant bits. -/
theorem ulp_dvd {r e : Nat} (hr : r ≤ Nat.pow 2 53) : ulp (r * Nat.pow 2 e) ∣ r * Nat.pow 2 e := by
  simp only [ulp, Nat.pow_eq] at hr ⊢
  by_cases h : r < 2 ^ 53
  · have hle : excess (r * 2 ^ e) ≤ e := by
      have : bitLength (r * 2 ^ e) ≤ 53 + e := by
        rw [bitLength_le_iff, Nat.pow_eq, Nat.pow_add]
        exact Nat.mul_lt_mul_of_pos_right h (Nat.two_pow_pos e)
      unfold excess
      omega
    exact Nat.dvd_trans (Nat.pow_dvd_pow 2 hle) (Nat.dvd_mul_left _ _)
  · have hr : r = 2 ^ 53 := by omega
    subst hr
    rw [← Nat.pow_add]
    refine Nat.pow_dvd_pow 2 ?_
    have : bitLength (2 ^ (53 + e)) ≤ 54 + e := by
      rw [bitLength_le_iff]
      exact Nat.pow_lt_pow_right (by decide) (by omega)
    unfold excess
    omega

theorem ulp_dvd_nearest (num den : Nat) : ulp (nearest num den) ∣ nearest num den := by
  refine ulp_dvd ?_
  refine Nat.le_trans (roundHalfEven_le_succ _ _) ?_
  rw [← Nat.div_div_eq_div_mul]
  exact div_ulp_lt _

end Binary64

/-- A binary64 number; the sign of a finite number also tells the two zeros apart. -/
inductive Binary64 where
  | nan
  | infinite (negative : Bool)
  | finite (negative : Bool) (units : Nat) (representable : Binary64.Representable units)
deriving DecidableEq

namespace Binary64

/-- The number nearest to the ratio counted in units, infinite if it is too large. -/
def ofRatio (negative : Bool) (num den : Nat) : Binary64 :=
  if h : nearest num den < overflow then
    .finite negative (nearest num den) ⟨h, ulp_dvd_nearest num den⟩
  else
    .infinite negative

/-- The number nearest to a natural. -/
def ofNat (n : Nat) : Binary64 := ofRatio false (n * one) 1

/-- The number nearest to an integer. -/
def ofInt (n : Int) : Binary64 := ofRatio (n < 0) (n.natAbs * one) 1

/-- The number nearest to `coefficient * 10 ^ exponent`; the ends of the range are settled
by the size of the exponent, before any large power is formed. -/
def ofDecimal (negative : Bool) (coefficient : Nat) (exponent : Int) : Binary64 :=
  if coefficient = 0 then ofRatio negative 0 1
  else if 310 < exponent then .infinite negative
  else if exponent + bitLength coefficient < -330 then ofRatio negative 0 1
  else if 0 ≤ exponent then ofRatio negative (coefficient * Nat.pow 10 exponent.toNat * one) 1
  else ofRatio negative (coefficient * one) (Nat.pow 10 (-exponent).toNat)

instance (n : Nat) : OfNat Binary64 n := ⟨ofNat n⟩

instance : Inhabited Binary64 := ⟨0⟩

/-- The 64 bits of a number: the count's excess is the exponent field less one, except
that a count below `2 ^ 52` stands for itself. -/
def toBits : Binary64 → Nat
  | .nan => 0x7FF8000000000000
  | .infinite negative => negative.toNat * 0x8000000000000000 + 0x7FF0000000000000
  | .finite negative units _ =>
    negative.toNat * 0x8000000000000000 + excess units * 0x10000000000000 + units / ulp units

def isNan : Binary64 → Bool
  | .nan => true
  | _ => false

def isFinite : Binary64 → Bool
  | .finite .. => true
  | _ => false

/-! ### Order -/

/-- A finite number as a signed count of units. -/
def signed (negative : Bool) (units : Nat) : Int := if negative then -(units : Int) else units

/-- The order of numbers, in which `nan` is related to nothing and the two zeros are equal. -/
def le : Binary64 → Binary64 → Bool
  | .nan, _ => false
  | _, .nan => false
  | .infinite true, _ => true
  | _, .infinite false => true
  | .finite n u _, .finite m v _ => signed n u ≤ signed m v
  | _, _ => false

/-- The strict order of numbers. -/
def lt (x y : Binary64) : Bool := le x y && !le y x

/-- Equality of numbers as values: `nan` differs from itself and the two zeros are equal. -/
def sameValue (x y : Binary64) : Bool := le x y && le y x

end Binary64

end CallGuard
