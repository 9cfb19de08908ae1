import CallGuard.Duration
import Mathlib.Tactic.Ring

/-! Durations in machine words: the whole seconds and the nanoseconds below one more. Products and
sums are formed word by word, with a check at each step and a carry from the nanoseconds. They are
the products and sums of the durations that the words stand for, and there is none just if the
duration would be too long (`toDuration_times?`, `toDuration_plus?`). -/

namespace CallGuard.Duration

/-- Whole seconds, and nanoseconds below one more. -/
structure Words where
  seconds : UInt64
  fraction : UInt32
  fraction_lt : fraction.toNat < 1000000000

/-- The word of a number, if there is one. -/
def word? (n : Nat) : Option UInt64 := if n < UInt64.size then some (.ofNat n) else none

theorem maxNanos_eq : maxNanos = 18446744073709551615999999999 := rfl

/-- There is a word of a number just below their size. -/
theorem word?_cases (n : Nat) :
    (∃ x, word? n = some x ∧ x.toNat = n) ∨ word? n = none ∧ 18446744073709551616 ≤ n := by
  unfold word?
  split
  next h => exact .inl ⟨_, rfl, UInt64.toNat_ofNat_of_lt' h⟩
  next h => exact .inr ⟨rfl, Nat.not_lt.1 h⟩

/-- Nanoseconds below a second are a word. -/
theorem toNat_fraction (n : Nat) (h : n < 1000000000) : (UInt32.ofNat n).toNat = n :=
  UInt32.toNat_ofNat_of_lt' (by unfold UInt32.size; omega)

namespace Words

def nanos (w : Words) : Nat := w.seconds.toNat * 1000000000 + w.fraction.toNat

theorem nanos_le (w : Words) : w.nanos ≤ maxNanos := by
  have hs := w.seconds.toNat_lt_size
  have hf := w.fraction_lt
  unfold nanos maxNanos
  omega

/-- The duration that words stand for. -/
def toDuration (w : Words) : Duration := ⟨w.nanos, w.nanos_le⟩

/-- The words of a duration. -/
def ofDuration (d : Duration) : Words where
  seconds := .ofNat (d.nanos / 1000000000)
  fraction := .ofNat (d.nanos % 1000000000)
  fraction_lt := by
    rw [toNat_fraction _ (by omega)]
    omega

theorem toDuration_ofDuration (d : Duration) : (ofDuration d).toDuration = d := by
  have hd := d.nanos_le
  rw [maxNanos_eq] at hd
  refine ext_nanos ?_
  show (UInt64.ofNat (d.nanos / 1000000000)).toNat * 1000000000 +
    (UInt32.ofNat (d.nanos % 1000000000)).toNat = d.nanos
  rw [toNat_fraction _ (by omega), UInt64.toNat_ofNat_of_lt' (by unfold UInt64.size; omega)]
  omega

/-! ### Arithmetic -/

/-- The nanoseconds of two durations make a word. -/
theorem toNat_fraction_add (w v : Words) :
    (w.fraction + v.fraction).toNat = w.fraction.toNat + v.fraction.toNat := by
  have hw := w.fraction_lt
  have hv := v.fraction_lt
  rw [UInt32.toNat_add]
  omega

theorem toNat_fraction_sub (w v : Words) (h : 1000000000 ≤ (w.fraction + v.fraction).toNat) :
    (w.fraction + v.fraction - 1000000000).toNat = (w.fraction + v.fraction).toNat - 1000000000 :=
  UInt32.toNat_sub_of_le _ _ (UInt32.le_iff_toNat_le.2 h)

/-- The nanoseconds of a duration, counted so often, make a word. -/
theorem toNat_fraction_mul (w : Words) (n : UInt32) :
    (w.fraction.toUInt64 * n.toUInt64).toNat = w.fraction.toNat * n.toNat := by
  have hw := w.fraction_lt
  have hn := n.toNat_lt_size
  have hle : w.fraction.toNat * n.toNat ≤ 1000000000 * UInt32.size :=
    Nat.mul_le_mul (Nat.le_of_lt hw) (Nat.le_of_lt hn)
  unfold UInt32.size at hle
  rw [UInt64.toNat_mul, UInt32.toNat_toUInt64, UInt32.toNat_toUInt64]
  omega

/-- The product with a count. The nanoseconds are multiplied in a word that holds any such
product, and the whole seconds in it are carried. -/
def times? (w : Words) (n : UInt32) : Option Words :=
  (word? (w.seconds.toNat * n.toNat)).bind fun seconds =>
    (word? (seconds.toNat + (w.fraction.toUInt64 * n.toUInt64 / 1000000000).toNat)).map
      fun seconds => {
        seconds
        fraction := (w.fraction.toUInt64 * n.toUInt64 % 1000000000).toUInt32
        fraction_lt := by
          have hlt :=
            Nat.mod_lt (w.fraction.toUInt64 * n.toUInt64).toNat (y := 1000000000) (by decide)
          have hmod := UInt64.toNat_mod (w.fraction.toUInt64 * n.toUInt64) 1000000000
          change _ = _ % 1000000000 at hmod
          rw [UInt64.toNat_toUInt32]
          omega }

/-- The sum. A second is carried if the nanoseconds make one. -/
def plus? (w v : Words) : Option Words :=
  (word? (w.seconds.toNat + v.seconds.toNat)).bind fun seconds =>
    if h : (w.fraction + v.fraction).toNat < 1000000000 then
      some ⟨seconds, w.fraction + v.fraction, h⟩
    else
      (word? (seconds.toNat + 1)).map fun seconds => {
        seconds
        fraction := w.fraction + v.fraction - 1000000000
        fraction_lt := by
          have hw := w.fraction_lt
          have hv := v.fraction_lt
          rw [toNat_fraction_sub w v (Nat.not_lt.1 h), toNat_fraction_add]
          omega }

/-- The shorter of two, which the seconds tell unless they are the same. -/
def shorter (w v : Words) : Words :=
  if w.seconds < v.seconds ∨ w.seconds = v.seconds ∧ w.fraction ≤ v.fraction then w else v

theorem toDuration_times? (w : Words) (n : UInt32) :
    (w.times? n).map toDuration = w.toDuration.times? n.toNat := by
  have hsplit : w.toDuration.nanos * n.toNat =
      w.seconds.toNat * n.toNat * 1000000000 + w.fraction.toNat * n.toNat := by
    show (w.seconds.toNat * 1000000000 + w.fraction.toNat) * n.toNat = _
    ring
  have htotal := toNat_fraction_mul w n
  have hcarry : (w.fraction.toUInt64 * n.toUInt64 / 1000000000).toNat =
      w.fraction.toNat * n.toNat / 1000000000 := by
    rw [UInt64.toNat_div, htotal]
    rfl
  have hrest : (w.fraction.toUInt64 * n.toUInt64 % 1000000000).toUInt32.toNat =
      w.fraction.toNat * n.toNat % 1000000000 := by
    have hmod := UInt64.toNat_mod (w.fraction.toUInt64 * n.toUInt64) 1000000000
    rw [htotal] at hmod
    change _ = _ % 1000000000 at hmod
    rw [UInt64.toNat_toUInt32]
    omega
  have none_of_lt (h : maxNanos < w.toDuration.nanos * n.toNat) :
      w.toDuration.times? n.toNat = none := dif_neg (Nat.not_le.2 h)
  rw [maxNanos_eq] at none_of_lt
  rcases word?_cases (w.seconds.toNat * n.toNat) with ⟨x, hx, hn⟩ | ⟨hx, hle⟩
  · rcases word?_cases (x.toNat + (w.fraction.toUInt64 * n.toUInt64 / 1000000000).toNat) with
      ⟨y, hy, hm⟩ | ⟨hy, hle⟩
    · have hlt := y.toNat_lt
      rw [times?, hx, Option.bind_some, hy, Option.map_some, Option.map_some, Duration.times?,
        dif_pos (by rw [maxNanos_eq]; omega)]
      refine congrArg some (ext_nanos ?_)
      show y.toNat * 1000000000 + _ = w.toDuration.nanos * n.toNat
      rw [hrest, hm, hn, hcarry]
      omega
    · rw [times?, hx, Option.bind_some, hy]
      exact (none_of_lt (by omega)).symm
  · rw [times?, hx]
    exact (none_of_lt (by omega)).symm

theorem toDuration_plus? (w v : Words) :
    (w.plus? v).map toDuration = w.toDuration.plus? v.toDuration := by
  have hw : w.toDuration.nanos = w.seconds.toNat * 1000000000 + w.fraction.toNat := rfl
  have hv : v.toDuration.nanos = v.seconds.toNat * 1000000000 + v.fraction.toNat := rfl
  have hf := toNat_fraction_add w v
  have none_of_lt (h : maxNanos < w.toDuration.nanos + v.toDuration.nanos) :
      w.toDuration.plus? v.toDuration = none := dif_neg (Nat.not_le.2 h)
  rw [maxNanos_eq] at none_of_lt
  have hwf := w.fraction_lt
  have hvf := v.fraction_lt
  rcases word?_cases (w.seconds.toNat + v.seconds.toNat) with ⟨x, hx, hn⟩ | ⟨hx, hle⟩
  · have hlt := x.toNat_lt
    rw [plus?, hx, Option.bind_some]
    split
    next h =>
      rw [Duration.plus?, dif_pos (by rw [maxNanos_eq]; omega)]
      refine congrArg some (ext_nanos ?_)
      show x.toNat * 1000000000 + (w.fraction + v.fraction).toNat =
        w.toDuration.nanos + v.toDuration.nanos
      omega
    next h =>
      rcases word?_cases (x.toNat + 1) with ⟨y, hy, hm⟩ | ⟨hy, hle⟩
      · have hlt := y.toNat_lt
        rw [hy, Duration.plus?, dif_pos (by rw [maxNanos_eq]; omega)]
        refine congrArg some (ext_nanos ?_)
        show y.toNat * 1000000000 + (w.fraction + v.fraction - 1000000000).toNat =
          w.toDuration.nanos + v.toDuration.nanos
        rw [toNat_fraction_sub w v (Nat.not_lt.1 h)]
        omega
      · rw [hy]
        exact (none_of_lt (by omega)).symm
  · rw [plus?, hx]
    exact (none_of_lt (by omega)).symm

theorem toDuration_shorter (w v : Words) :
    (w.shorter v).toDuration = w.toDuration.shorter v.toDuration := by
  have hwf := w.fraction_lt
  have hvf := v.fraction_lt
  have hle : (w.seconds < v.seconds ∨ w.seconds = v.seconds ∧ w.fraction ≤ v.fraction) ↔
      w.toDuration.nanos ≤ v.toDuration.nanos := by
    rw [UInt64.lt_iff_toNat_lt, ← UInt64.toNat_inj, UInt32.le_iff_toNat_le]
    show _ ↔ w.seconds.toNat * 1000000000 + w.fraction.toNat ≤
      v.seconds.toNat * 1000000000 + v.fraction.toNat
    omega
  rw [shorter, Duration.shorter]
  simp only [hle]
  split <;> rfl

end Words

end CallGuard.Duration
