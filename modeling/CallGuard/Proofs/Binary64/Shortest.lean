import CallGuard.Proofs.Binary64.Rounding
import CallGuard.Proofs.Text.Numeral

/-! Decimal texts that read back. Seventeen digits are enough for any count: the grid of so many
digits is finer than half the gap about the count, so one of the two neighbours on it lies near
the count (`exists_onGrid`). Hence the shortest digits are near it too (`near_shortest`), and a
decimal number that is near a count is the number of that count (`ofDecimal_eq`). -/

namespace CallGuard.Binary64

open Text

/-! ### Decimal numbers as ratios -/

namespace Decimal

/-- A decimal number in units as a ratio. -/
def num (d : Decimal) : Nat := d.coefficient * Nat.pow 10 d.exponent.toNat * one

def den (d : Decimal) : Nat := Nat.pow 10 (-d.exponent).toNat

theorem den_pos (d : Decimal) : 0 < d.den := Nat.pow_pos (by decide)

end Decimal

variable {u num den num' den' : Nat} {d : Decimal}

theorem le_iff_of_scaled {a b c d k k' : Nat} (hk : 0 < k) (hk' : 0 < k')
    (hc : a * k' = c * k) (hd : b * k' = d * k) : (a ≤ b ↔ c ≤ d) ∧ (a < b ↔ c < d) := by
  constructor
  · rw [← Nat.mul_le_mul_right_iff hk', hc, hd, Nat.mul_le_mul_right_iff hk]
  · rw [← Nat.mul_lt_mul_right hk', hc, hd, Nat.mul_lt_mul_right hk]

/-- Nearness is a matter of the ratio only. -/
theorem Near.congr (h : Near u num den) (pos : 0 < den) (pos' : 0 < den')
    (he : num * den' = num' * den) : Near u num' den' := by
  have hu : 4 * (u * den) * den' = 4 * (u * den') * den := by ring
  have hnum : 4 * num * den' = 4 * num' * den := by rw [Nat.mul_assoc, he, Nat.mul_assoc]
  have low := le_iff_of_scaled (b := 4 * num + (gaps u).1 * den)
    (d := 4 * num' + (gaps u).1 * den') pos pos' hu (by rw [Nat.add_mul, hnum]; ring)
  have high := le_iff_of_scaled (b := 4 * (u * den) + (gaps u).2 * den)
    (d := 4 * (u * den') + (gaps u).2 * den') pos pos' hnum (by ring)
  exact {
    low := low.1.1 h.low
    high := high.1.1 h.high
    odd := fun ho => ⟨low.2.1 (h.odd ho).1, high.2.1 (h.odd ho).2⟩ }

theorem gaps_fst_le (hu : ulp u ∣ u) (hpos : 0 < u) : (gaps u).1 ≤ 2 * u := by
  have hle := Nat.le_of_dvd hpos hu
  rcases gaps_cases u with ⟨he, -⟩ | ⟨he, -⟩
  · rw [he]
    show 2 * ulp u ≤ 2 * u
    omega
  · rw [he]
    show ulp u ≤ 2 * u
    omega

/-- A decimal number reads back as a count just if it is near it. -/
theorem readsBack_iff (hu : ulp u ∣ u) (hpos : 0 < u) :
    readsBack u d = true ↔ Near u d.num d.den := by
  have hle := Nat.mul_le_mul_right d.den (gaps_fst_le hu hpos)
  have hx : 4 * d.coefficient * Nat.pow 10 d.exponent.toNat * one = 4 * d.num := by
    rw [Decimal.num]
    ring
  have hlo : (4 * u - (gaps u).1) * d.den = 4 * (u * d.den) - (gaps u).1 * d.den := by
    rw [Nat.sub_mul, Nat.mul_assoc]
  have hhi : (4 * u + (gaps u).2) * d.den = 4 * (u * d.den) + (gaps u).2 * d.den := by
    rw [Nat.add_mul, Nat.mul_assoc]
  rw [Nat.mul_assoc] at hle
  have hd : Nat.pow 10 (-d.exponent).toNat = d.den := rfl
  simp only [readsBack, hx, hd, hlo, hhi]
  split
  next heven =>
    rw [decide_eq_true_iff]
    refine ⟨fun h => ⟨by omega, by omega, fun ho => by omega⟩, fun h => ?_⟩
    have hlow := h.low
    have hhigh := h.high
    omega
  next hne =>
    rw [decide_eq_true_iff]
    refine ⟨fun h => ⟨by omega, by omega, fun ho => by omega⟩, fun h => ?_⟩
    have hodd := h.odd (by omega)
    omega

/-! ### Seventeen digits are enough -/

/-- The last of so many digits of a count, as a power of ten. -/
def lastPlace (u digits : Nat) : Int := point u - digits

theorem one_pos : 0 < one := by decide +kernel

theorem ten_pow_pos (n : Nat) : 0 < Nat.pow 10 n := Nat.pow_pos (by decide)

theorem ten_pow_add (m n : Nat) : Nat.pow 10 (m + n) = Nat.pow 10 m * Nat.pow 10 n :=
  Nat.pow_add ..

theorem one_le_pow : one ≤ Nat.pow 10 340 := by decide +kernel

/-- Powers of ten moved from one side to the other. -/
theorem mul_pow_le_of_scaled {w a i j k l : Nat}
    (hle : Nat.pow 10 l * w ≤ u * Nat.pow 10 j) (h : a + i + j = l + k) :
    Nat.pow 10 a * w * Nat.pow 10 i ≤ u * Nat.pow 10 k := by
  refine Nat.le_of_mul_le_mul_right ?_ (ten_pow_pos j)
  calc Nat.pow 10 a * w * Nat.pow 10 i * Nat.pow 10 j = Nat.pow 10 (a + i + j) * w := by
        simp only [Nat.pow_eq, Nat.pow_add]
        ac_rfl
    _ = Nat.pow 10 l * w * Nat.pow 10 k := by
        simp only [h, Nat.pow_eq, Nat.pow_add]
        ac_rfl
    _ ≤ u * Nat.pow 10 j * Nat.pow 10 k := Nat.mul_le_mul_right _ hle
    _ = u * Nat.pow 10 k * Nat.pow 10 j := Nat.mul_right_comm ..

/-- With seventeen digits, the last one is worth less than a count by sixteen places. -/
theorem place_mul_le (hpos : 0 < u) :
    Nat.pow 10 (lastPlace u 17).toNat * one * Nat.pow 10 16 ≤
      u * Nat.pow 10 (-lastPlace u 17).toNat := by
  have hscaled : u * Nat.pow 10 340 / one ≠ 0 := by
    have hle : one ≤ u * Nat.pow 10 340 := one_le_pow.trans (Nat.le_mul_of_pos_left _ hpos)
    exact Nat.ne_of_gt (Nat.div_pos hle one_pos)
  have hlen := Numeral.pow_length_render_le (show 2 ≤ 10 by decide) hscaled
  have hne := List.length_pos_iff.2 (Numeral.render_ne_nil 10 (u * Nat.pow 10 340 / one))
  have hle := (Nat.le_div_iff_mul_le one_pos).1 hlen
  have hexp : (lastPlace u 17).toNat + 16 + 340 =
      (Numeral.render 10 (u * Nat.pow 10 340 / one)).length - 1 + (-lastPlace u 17).toNat := by
    simp only [lastPlace, point]
    omega
  exact mul_pow_le_of_scaled hle hexp

/-- A count has at most sixteen digits before half its lower gap. -/
theorem two_mul_lt_gap (u : Nat) : 2 * u < (gaps u).1 * Nat.pow 10 16 := by
  have h52 : Nat.pow 2 52 = 4503599627370496 := rfl
  have h53 : Nat.pow 2 53 = 9007199254740992 := rfl
  have h16 : Nat.pow 10 16 = 10000000000000000 := rfl
  have hg := ulp_pos u
  rcases gaps_cases u with ⟨he, -⟩ | ⟨he, -, hu⟩
  · have hlt := lt_ulp u
    rw [he, h16]
    rw [h53] at hlt
    show 2 * u < 2 * ulp u * 10000000000000000
    omega
  · rw [he, h16]
    rw [h52] at hu
    show 2 * u < ulp u * 10000000000000000
    omega

theorem gaps_fst_le_snd (u : Nat) : (gaps u).1 ≤ (gaps u).2 := by
  rw [gaps_snd]
  rcases gaps_cases u with ⟨he, -⟩ | ⟨he, -⟩
  · rw [he]
  · rw [he]
    show ulp u ≤ 2 * ulp u
    omega

/-- Of the two neighbours of a count on a grid finer than half its lower gap, one is near it. -/
theorem near_or_near {up : Nat} (hup : 0 < up) (hfine : 2 * up < (gaps u).1 * den) :
    Near u (u * den / up * up) den ∨ Near u ((u * den / up + 1) * up) den := by
  have hsum := Nat.div_add_mod' (u * den) up
  have hr := Nat.mod_lt (u * den) hup
  have hle := Nat.mul_le_mul_right den (gaps_fst_le_snd u)
  rcases Nat.lt_or_ge up (2 * (u * den % up)) with hhigh | hlow
  · right
    rw [Nat.succ_mul]
    exact ⟨by omega, by omega, fun _ => by omega⟩
  · left
    exact ⟨by omega, by omega, fun _ => by omega⟩

/-- What is taken from a grid reads back, -/
theorem readsBack_of_onGrid {digits : Nat} (h : onGrid u digits = some d) :
    readsBack u d = true := by
  unfold onGrid at h
  dsimp only at h
  split at h
  next hl hh =>
    split at h
    next => cases h; exact hl
    next => cases h; exact hh
  next hl hh => cases h; exact hl
  next hl hh => cases h; exact hh
  next => cases h

/-- and nothing is just if neither neighbour does. -/
theorem isSome_onGrid {digits : Nat} (h : ∃ c, readsBack u ⟨c, lastPlace u digits⟩ = true ∧
      (c = u * Nat.pow 10 (-lastPlace u digits).toNat /
          (Nat.pow 10 (lastPlace u digits).toNat * one) ∨
        c = u * Nat.pow 10 (-lastPlace u digits).toNat /
          (Nat.pow 10 (lastPlace u digits).toNat * one) + 1)) : (onGrid u digits).isSome = true := by
  obtain ⟨c, hb, hc⟩ := h
  unfold lastPlace at hb hc
  unfold onGrid
  dsimp only
  split
  next => split <;> rfl
  next => rfl
  next => rfl
  next hl hh =>
    rcases hc with rfl | rfl
    · rw [hl] at hb
      cases hb
    · rw [hh] at hb
      cases hb

/-- Some number of seventeen digits reads back. -/
theorem exists_onGrid (hu : ulp u ∣ u) (hpos : 0 < u) : (onGrid u 17).isSome = true := by
  have hplace := place_mul_le hpos
  have hup : 0 < Nat.pow 10 (lastPlace u 17).toNat * one := Nat.mul_pos (ten_pow_pos _) one_pos
  have hden := ten_pow_pos (-lastPlace u 17).toNat
  have hfine : 2 * (Nat.pow 10 (lastPlace u 17).toNat * one) <
      (gaps u).1 * Nat.pow 10 (-lastPlace u 17).toNat := by
    refine Nat.lt_of_mul_lt_mul_right (a := Nat.pow 10 16) ?_
    have hgap := Nat.mul_lt_mul_of_pos_right (two_mul_lt_gap u) hden
    calc 2 * (Nat.pow 10 (lastPlace u 17).toNat * one) * Nat.pow 10 16
        = 2 * (Nat.pow 10 (lastPlace u 17).toNat * one * Nat.pow 10 16) := Nat.mul_assoc ..
      _ ≤ 2 * (u * Nat.pow 10 (-lastPlace u 17).toNat) := Nat.mul_le_mul_left 2 hplace
      _ = 2 * u * Nat.pow 10 (-lastPlace u 17).toNat := (Nat.mul_assoc ..).symm
      _ < (gaps u).1 * Nat.pow 10 16 * Nat.pow 10 (-lastPlace u 17).toNat := hgap
      _ = (gaps u).1 * Nat.pow 10 (-lastPlace u 17).toNat * Nat.pow 10 16 := by ring
  refine isSome_onGrid ?_
  rcases near_or_near hup hfine with h | h
  · refine ⟨_, (readsBack_iff hu hpos).2 ?_, .inl rfl⟩
    rw [Decimal.num, Nat.mul_assoc]
    exact h
  · refine ⟨_, (readsBack_iff hu hpos).2 ?_, .inr rfl⟩
    rw [Decimal.num, Nat.mul_assoc]
    exact h

/-! ### The fewest digits -/

/-- A decimal number with zeros taken off the end is the same ratio. -/
theorem Decimal.num_mul_den {d d' : Decimal} {k : Nat}
    (hc : d.coefficient = d'.coefficient * Nat.pow 10 k) (he : d'.exponent = d.exponent + k) :
    d.num * d'.den = d'.num * d.den := by
  have hsum : k + d.exponent.toNat + (-d'.exponent).toNat =
      d'.exponent.toNat + (-d.exponent).toNat := by omega
  have hpow : Nat.pow 10 k * Nat.pow 10 d.exponent.toNat * Nat.pow 10 (-d'.exponent).toNat =
      Nat.pow 10 d'.exponent.toNat * Nat.pow 10 (-d.exponent).toNat := by
    simp only [Nat.pow_eq, ← Nat.pow_add, hsum]
  unfold num den
  generalize one = w
  calc d.coefficient * Nat.pow 10 d.exponent.toNat * w * Nat.pow 10 (-d'.exponent).toNat
      = d'.coefficient * w *
          (Nat.pow 10 k * Nat.pow 10 d.exponent.toNat * Nat.pow 10 (-d'.exponent).toNat) := by
        rw [hc]
        ac_rfl
    _ = d'.coefficient * Nat.pow 10 d'.exponent.toNat * w * Nat.pow 10 (-d.exponent).toNat := by
        rw [hpow]
        ac_rfl

theorem Near.trim (h : Near u d.num d.den) : Near u d.trim.num d.trim.den := by
  fun_induction Decimal.trim d with
  | case1 d hc ih =>
    refine ih (h.congr d.den_pos (Decimal.den_pos _) (Decimal.num_mul_den (k := 1) ?_ rfl))
    show d.coefficient = d.coefficient / 10 * 10
    omega
  | case2 d hc => exact h

/-- The shortest digits of a count are near it. -/
theorem near_shortest (hu : ulp u ∣ u) (hpos : 0 < u) :
    Near u (shortest u).num (shortest u).den := by
  unfold shortest
  refine Near.trim ?_
  cases hf : (List.range 17).findSome? fun n => onGrid u (n + 1) with
  | none =>
    have hn := List.findSome?_eq_none_iff.1 hf 16 (by decide)
    have hs := exists_onGrid hu hpos
    rw [hn] at hs
    cases hs
  | some d =>
    obtain ⟨n, -, hd⟩ := List.exists_of_findSome?_eq_some hf
    exact (readsBack_iff hu hpos).1 (readsBack_of_onGrid hd)

/-- A number near a count is half of it at least. -/
theorem Near.mul_den_le (h : Near u num den) (hu : ulp u ∣ u) (hpos : 0 < u) :
    u * den ≤ 2 * num := by
  have hle := Nat.mul_le_mul_right den (gaps_fst_le hu hpos)
  have hlow := h.low
  rw [Nat.mul_assoc] at hle
  omega

theorem coefficient_ne_zero (h : Near u d.num d.den) (hu : ulp u ∣ u) (hpos : 0 < u) :
    d.coefficient ≠ 0 := by
  intro hz
  have hle := h.mul_den_le hu hpos
  have hd := Nat.mul_pos hpos d.den_pos
  rw [Decimal.num, hz, Nat.zero_mul, Nat.zero_mul] at hle
  omega

/-! ### Reading -/

theorem ofRatio_eq {negative : Bool} (hr : Representable u) (h : nearest num den = u) :
    ofRatio negative num den = .finite negative u hr := by
  subst h
  exact dif_pos hr.1

theorem two_mul_one_le : 2 * one ≤ Nat.pow 10 331 := by decide +kernel

theorem two_mul_lt_pow {c w j k n : Nat} (hc : c < Nat.pow 2 n) (hw : 0 < w)
    (hj : 2 * w ≤ Nat.pow 10 j) (hk : j + n ≤ k) : 2 * (c * w) < Nat.pow 10 k :=
  calc 2 * (c * w) = c * (2 * w) := Nat.mul_left_comm ..
    _ < Nat.pow 2 n * (2 * w) := Nat.mul_lt_mul_of_pos_right hc (Nat.mul_pos (by decide) hw)
    _ ≤ Nat.pow 10 n * Nat.pow 10 j := Nat.mul_le_mul (Nat.pow_le_pow_left (by decide) _) hj
    _ = Nat.pow 10 (j + n) := by rw [Nat.mul_comm, ten_pow_add]
    _ ≤ Nat.pow 10 k := Nat.pow_le_pow_right (by decide) hk

/-- No number near a count is so small that only its exponent is looked at. -/
theorem le_exponent (h : Near u d.num d.den) (hu : ulp u ∣ u) (hpos : 0 < u)
    (he : d.exponent < 0) : -330 ≤ d.exponent + bitLength d.coefficient := by
  by_contra hlt
  have hz : d.exponent.toNat = 0 := by omega
  have hle := h.mul_den_le hu hpos
  have hc : d.coefficient < Nat.pow 2 (bitLength d.coefficient) := lt_two_pow_bitLength _
  have hk : 331 + bitLength d.coefficient ≤ (-d.exponent).toNat := by omega
  rw [Decimal.num, hz] at hle
  have hlt := two_mul_lt_pow hc one_pos two_mul_one_le hk
  have hm : Nat.pow 10 (-d.exponent).toNat ≤ u * d.den := Nat.le_mul_of_pos_left _ hpos
  rw [show d.coefficient * Nat.pow 10 0 = d.coefficient from Nat.mul_one _] at hle
  omega

/-- A decimal number near a count is read as that count. -/
theorem ofDecimal_eq {negative : Bool} (h : Near u d.num d.den) (hr : Representable u)
    (hpos : 0 < u) (he : d.exponent < 0) :
    ofDecimal negative d.coefficient d.exponent = .finite negative u hr := by
  have hsmall := le_exponent h hr.2 hpos he
  have hnum : d.coefficient * one = d.num := by
    have hz : d.exponent.toNat = 0 := by omega
    rw [Decimal.num, hz]
    exact congrArg (· * one) (Nat.mul_one _).symm
  unfold ofDecimal
  rw [if_neg (coefficient_ne_zero h hr.2 hpos), if_neg (by omega), if_neg (by omega),
    if_neg (by omega), hnum]
  exact ofRatio_eq hr (h.nearest_eq d.den_pos hr.2)

end CallGuard.Binary64
