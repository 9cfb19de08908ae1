import CallGuard.Binary64.Arith
import CallGuard.Binary64.Decimal
import CallGuard.NameMap
import CallGuard.Text.Quoted

/-! Settings of the guarded calls. Every field has a default of its own structure; the
settings of a breaker named under `breakers` are complete in themselves, and a name that
is not listed there has those of `breakerDefaults`. -/

namespace CallGuard

/-- What is logged and whether counters are served. -/
structure ObservabilitySettings where
  logLevel : String := "info"
  metricsEnabled : Bool := false
  metricsAddress : String := "127.0.0.1:9090"
deriving DecidableEq

/-- How a failed call is repeated; delays are in milliseconds. -/
structure RetrySettings where
  maxAttempts : UInt32 := 3
  initialDelayMs : UInt64 := 100
  maxDelayMs : UInt64 := 10000
  multiplier : Binary64 := 2
  randomizeFactor : Binary64 := Binary64.ofQuotient 1 10
deriving DecidableEq

/-- Limits of one exchange in milliseconds. -/
structure ClientSettings where
  requestTimeoutMs : UInt64 := 5000
  connectTimeoutMs : UInt64 := 2000
deriving DecidableEq

/-- When a breaker opens, how long it stays open, and how many probes it lets through after that. -/
structure BreakerSettings where
  maxFailures : UInt32 := 5
  resetTimeoutMs : UInt64 := 30000
  halfOpenRequests : UInt32 := 1
deriving DecidableEq

structure Config where
  observability : ObservabilitySettings := {}
  retry : RetrySettings := {}
  client : ClientSettings := {}
  breakerDefaults : BreakerSettings := {}
  breakers : NameMap BreakerSettings := .empty
deriving DecidableEq

namespace Config

/-- The settings of a dependency's breaker. -/
def breaker (c : Config) (name : String) : BreakerSettings :=
  (c.breakers.get? name).getD c.breakerDefaults

/-- Equality of two numbers as values, under which `nan` is never equal. -/
def sameRetry (r s : RetrySettings) : Bool :=
  r.multiplier.sameValue s.multiplier && r.randomizeFactor.sameValue s.randomizeFactor
    && { r with multiplier := 0, randomizeFactor := 0 }
      = { s with multiplier := 0, randomizeFactor := 0 }

/-- Equality of settings, numbers being compared as values. -/
def same (c d : Config) : Bool :=
  c.observability = d.observability && sameRetry c.retry d.retry && c.client = d.client
    && c.breakerDefaults = d.breakerDefaults && c.breakers = d.breakers

end Config

/-! ### Diagnostic text -/

open Text

def boolText (b : Bool) : String := if b then "true" else "false"

def ObservabilitySettings.text (s : ObservabilitySettings) : String :=
  record "ObservabilityConfig" [("log_level", quoted s.logLevel),
    ("metrics_enabled", boolText s.metricsEnabled), ("metrics_address", quoted s.metricsAddress)]

def RetrySettings.text (s : RetrySettings) : String :=
  record "RetrySettings" [("max_attempts", Numeral.decimal s.maxAttempts.toNat),
    ("initial_delay_ms", Numeral.decimal s.initialDelayMs.toNat),
    ("max_delay_ms", Numeral.decimal s.maxDelayMs.toNat),
    ("multiplier", s.multiplier.render .diagnostic),
    ("randomize_factor", s.randomizeFactor.render .diagnostic)]

def ClientSettings.text (s : ClientSettings) : String :=
  record "ClientSettings" [("request_timeout_ms", Numeral.decimal s.requestTimeoutMs.toNat),
    ("connect_timeout_ms", Numeral.decimal s.connectTimeoutMs.toNat)]

def BreakerSettings.text (s : BreakerSettings) : String :=
  record "BreakerSettings" [("max_failures", Numeral.decimal s.maxFailures.toNat),
    ("reset_timeout_ms", Numeral.decimal s.resetTimeoutMs.toNat),
    ("half_open_requests", Numeral.decimal s.halfOpenRequests.toNat)]

def Config.text (c : Config) : String :=
  record "ResilienceConfig" [("observability", c.observability.text), ("retry", c.retry.text),
    ("client", c.client.text), ("breaker_defaults", c.breakerDefaults.text),
    ("breakers", "\x7b" ++ ", ".intercalate (c.breakers.entries.map fun (name, s) =>
      quoted name ++ ": " ++ s.text) ++ "\x7d")]

end CallGuard
