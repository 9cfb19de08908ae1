import CallGuard.Binary64.Arith
import CallGuard.Text.Numeral

/-! Spans of time in whole nanoseconds, up to `2 ^ 64` seconds less a nanosecond, and
instants of a clock counted from its start. A duration turns into seconds with one
rounding for the whole seconds, one for the fraction and one for their sum; seconds turn
into the nearest nanosecond, and what is negative or no number at all into zero. -/

namespace CallGuard

/-- The longest duration in nanoseconds. -/
def Duration.maxNanos : Nat := UInt64.size * 1000000000 - 1

structure Duration where
  nanos : Nat
  nanos_le : nanos ≤ Duration.maxNanos
deriving DecidableEq

/-- Nanoseconds since the start of the clock. -/
abbrev Instant := Nat

namespace Duration

theorem ext_nanos {d e : Duration} (h : d.nanos = e.nanos) : d = e := by
  cases d; cases e; simp_all

/-- So many nanoseconds, cut off at the longest duration. -/
def ofNanos (n : Nat) : Duration := ⟨min n maxNanos, Nat.min_le_right _ _⟩

def zero : Duration := ⟨0, Nat.zero_le _⟩

def longest : Duration := ⟨maxNanos, Nat.le_refl _⟩

instance : Inhabited Duration := ⟨zero⟩

/-- Milliseconds fit whatever their number. -/
def ofMillis (ms : UInt64) : Duration :=
  ⟨ms.toNat * 1000000, by have := ms.toNat_lt; unfold maxNanos UInt64.size; omega⟩

/-- The product with a count, if it is a duration. -/
def times? (d : Duration) (n : Nat) : Option Duration :=
  if h : d.nanos * n ≤ maxNanos then some ⟨d.nanos * n, h⟩ else none

/-- The sum, if it is a duration. -/
def plus? (d e : Duration) : Option Duration :=
  if h : d.nanos + e.nanos ≤ maxNanos then some ⟨d.nanos + e.nanos, h⟩ else none

/-- The shorter of two durations. -/
def shorter (d e : Duration) : Duration := if d.nanos ≤ e.nanos then d else e

/-! ### Seconds -/

/-- Seconds as a number. -/
def toSeconds (d : Duration) : Binary64 :=
  Binary64.ofNat (d.nanos / 1000000000) + Binary64.ofQuotient (d.nanos % 1000000000) 1000000000

/-- The nearest nanosecond to so many seconds, from zero to the longest duration. -/
def ofSeconds : Binary64 → Duration
  | .nan => zero
  | .infinite negative => if negative then zero else longest
  | .finite negative units _ =>
    if negative then zero
    else ofNanos (Binary64.roundHalfEven (units * 1000000000) Binary64.one)

/-! ### Text -/

/-- A whole number and a fraction of so many places, without trailing zeros. -/
def decimalText (whole fraction places : Nat) : String :=
  let ds := ((Text.Numeral.padded places 10 fraction).reverse.dropWhile (· = '0')).reverse
  Text.Numeral.decimal whole ++ if ds.isEmpty then "" else "." ++ String.ofList ds

/-- A duration in the largest unit that has a whole part. -/
def text (d : Duration) : String :=
  let n := d.nanos
  if 1000000000 ≤ n then decimalText (n / 1000000000) (n % 1000000000) 9 ++ "s"
  else if 1000000 ≤ n then decimalText (n / 1000000) (n % 1000000) 6 ++ "ms"
  else if 1000 ≤ n then decimalText (n / 1000) (n % 1000) 3 ++ "µs"
  else decimalText n 0 0 ++ "ns"

end Duration

namespace Instant

/-- The first whole millisecond at or after an instant, which is when a sleeper wakes. -/
def wake (t : Instant) : Instant := (t + 999999) / 1000000 * 1000000

/-- The first instant beyond the range of the clock. -/
def rangeEnd : Instant := 0x8000000000000000 * 1000000000

/-- The instant a duration after another, if the clock has one. -/
def after? (t : Instant) (d : Duration) : Option Instant :=
  if t + d.nanos < rangeEnd then some (t + d.nanos) else none

/-- When a sleep of a given length ends: at once if it is empty, after thirty years if the
clock has no such instant. -/
def sleepEnd (t : Instant) (d : Duration) : Instant :=
  if d.nanos = 0 then t else wake ((after? t d).getD (t + 946080000000000000))

theorem le_wake (t : Nat) : t ≤ wake t := by
  show t ≤ (t + 999999) / 1000000 * 1000000
  omega

theorem le_sleepEnd (t : Instant) (d : Duration) : t ≤ sleepEnd t d := by
  unfold sleepEnd after?
  split
  · exact Nat.le_refl t
  · refine Nat.le_trans ?_ (le_wake _)
    split <;> simp

end Instant

end CallGuard
