import CallGuard.Backoff
import CallGuard.Config.Basic

/-! A plan for repeating a failed call: how often, and with which waits in between. The
waits grow from the initial delay by the multiplier up to the cap, each then jittered; the
jitter of one wait does not enter the next. -/

namespace CallGuard.Retry

structure Plan where
  maxAttempts : UInt32 := 3
  initial : Duration := .ofMillis 100
  cap : Duration := .ofMillis 10000
  multiplier : Binary64 := 2
  factor : Binary64 := Binary64.ofQuotient 1 10

namespace Plan

def ofSettings (s : RetrySettings) : Plan :=
  ⟨s.maxAttempts, .ofMillis s.initialDelayMs, .ofMillis s.maxDelayMs, s.multiplier,
    s.randomizeFactor⟩

/-- The number of attempts, one at least. -/
def attempts (p : Plan) : Nat := max 1 p.maxAttempts.toNat

/-- The delay after another, before jitter. -/
def next (p : Plan) (delay : Duration) : Duration := Backoff.grow delay p.multiplier p.cap

/-- The delay after so many failures and one, before jitter. -/
def base (p : Plan) (k : Nat) : Duration := Backoff.grown p.initial p.multiplier p.cap k

open Text

/-- Diagnostic text. -/
def text (p : Plan) : String :=
  record "RetryConfig" [("max_attempts", Numeral.decimal p.maxAttempts.toNat),
    ("initial_delay", p.initial.text), ("max_delay", p.cap.text),
    ("multiplier", p.multiplier.render .diagnostic),
    ("randomize_factor", p.factor.render .diagnostic), ("retry_if", quoted "<predicate>")]

end Plan

end CallGuard.Retry
