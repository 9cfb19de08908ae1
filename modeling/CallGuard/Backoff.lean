import CallGuard.Binary64.Decimal
import CallGuard.Duration
import CallGuard.Text.Quoted

/-! Delays between attempts. A delay grows by a multiplier up to a cap; the comparison
with the cap is made in seconds as numbers, so what is no finite number counts as above
it. Jitter spreads a delay over a symmetric band of seconds, from which a number is
picked; an empty delay and a factor that is no positive number leave the delay alone. -/

namespace CallGuard.Backoff

open Binary64

/-- So many seconds, or the cap if they reach it or are no finite number. -/
def capped (seconds : Binary64) (cap : Duration) : Duration :=
  if !seconds.isFinite || le cap.toSeconds seconds then cap else Duration.ofSeconds seconds

/-- The delay after a delay. -/
def grow (delay : Duration) (multiplier : Binary64) (cap : Duration) : Duration :=
  capped (delay.toSeconds * multiplier) cap

/-- The delay after so many growths. -/
def grown (delay : Duration) (multiplier : Binary64) (cap : Duration) : Nat → Duration
  | 0 => delay
  | k + 1 => grow (grown delay multiplier cap k) multiplier cap

/-! ### Jitter -/

/-- The seconds from which a jittered delay is picked, ends included. -/
structure Band where
  low : Binary64
  high : Binary64
deriving DecidableEq

/-- A choice of seconds from a band. -/
abbrev Sampler := Band → Binary64

/-- The point of a band at a part of its width. -/
def Band.point (part of : Nat) : Sampler := fun b =>
  b.low + (b.high - b.low) * ofQuotient part of

/-- The middle of the band. -/
def Band.middle : Sampler := Band.point 1 2

/-- The band about a delay, a factor above one counting as one. -/
def jitterBand? (delay : Duration) (factor : Binary64) : Option Band :=
  if delay.nanos = 0 || factor.isNan || le factor 0 then none
  else
    let base := delay.toSeconds
    let delta := base * if lt factor 1 then factor else 1
    some ⟨base - delta, base + delta⟩

/-- A delay moved within its band. -/
def jitter (pick : Sampler) (delay : Duration) (factor : Binary64) : Duration :=
  match jitterBand? delay factor with
  | none => delay
  | some band => Duration.ofSeconds (pick band)

/-! ### Schedules -/

/-- Delays `initial * multiplier ^ attempt`, capped, then jittered. -/
structure Exponential where
  initial : Duration := .ofMillis 100
  cap : Duration := .ofMillis 10000
  multiplier : Binary64 := 2
  factor : Binary64 := ofQuotient 1 10
  maxAttempts : UInt32 := 3

/-- Delays `initial + increment * attempt`, capped. -/
structure Linear where
  initial : Duration := .ofMillis 100
  increment : Duration := .ofMillis 100
  cap : Duration := .ofMillis 5000
  maxAttempts : UInt32 := 3

/-- The largest exponent of a power. -/
def maxExponent : Nat := 0x7FFFFFFF

/-- The delay after a zero-based attempt, before jitter. -/
def Exponential.base (p : Exponential) (attempt : Nat) : Duration :=
  capped (p.initial.toSeconds * powNat p.multiplier (min attempt maxExponent)) p.cap

/-- The delay after a zero-based attempt. -/
def Exponential.delay (pick : Sampler) (p : Exponential) (attempt : Nat) : Duration :=
  jitter pick (p.base attempt) p.factor

/-- The delay after a zero-based attempt; a sum or product too large for a duration is above
any cap. -/
def Linear.delay (p : Linear) (attempt : Nat) : Duration :=
  match (p.increment.times? attempt).bind p.initial.plus? with
  | none => p.cap
  | some delay => delay.shorter p.cap

/-- The counter of attempts stops at its largest value. -/
def nextAttempt (attempt : Nat) : Nat := min (attempt + 1) (UInt32.size - 1)

/-- Whether a policy of so many attempts has one left after a zero-based attempt. -/
def attemptsLeft (maxAttempts : UInt32) (attempt : Nat) : Bool :=
  nextAttempt attempt < maxAttempts.toNat

/-! ### Diagnostic text -/

open Text

def Exponential.text (p : Exponential) : String :=
  record "ExponentialBackoffPolicy" [("initial_delay", p.initial.text), ("max_delay", p.cap.text),
    ("multiplier", p.multiplier.render .diagnostic),
    ("randomize_factor", p.factor.render .diagnostic),
    ("max_attempts", Numeral.decimal p.maxAttempts.toNat)]

def Linear.text (p : Linear) : String :=
  record "LinearBackoffPolicy" [("initial_delay", p.initial.text),
    ("increment", p.increment.text), ("max_delay", p.cap.text),
    ("max_attempts", Numeral.decimal p.maxAttempts.toNat)]

end CallGuard.Backoff
