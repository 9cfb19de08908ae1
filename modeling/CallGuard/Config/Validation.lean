import CallGuard.Config.Basic
import CallGuard.Net.Address

/-! Rules that settings have to keep beyond their types. `violations` lists every broken
rule once, in a fixed order: retry, client, observability, the breaker defaults, then the
named breakers in the order of their names. A blank breaker name is reported in place of
what is wrong with its settings. -/

namespace CallGuard

open Text

/-- A broken rule: the dotted path of the setting and what is wrong with it. -/
structure Violation where
  field : String
  message : String
deriving DecidableEq, Repr

namespace Violation

def display (v : Violation) : String := v.field ++ ": " ++ v.message

def text (v : Violation) : String :=
  record "ValidationError" [("field", quoted v.field), ("message", quoted v.message)]

end Violation

/-- A violation if the condition holds. -/
def violationIf (broken : Bool) (field message : String) : List Violation :=
  if broken then [⟨field, message⟩] else []

def mustBePositive : String := "must be greater than 0"

namespace RetrySettings

/-- Whether a multiplier lets delays be computed: a finite number above zero. -/
def multiplierOk (s : RetrySettings) : Bool := s.multiplier.isFinite && Binary64.lt 0 s.multiplier

/-- Whether the jitter factor is a part of the delay. -/
def factorOk (s : RetrySettings) : Bool :=
  Binary64.le 0 s.randomizeFactor && Binary64.le s.randomizeFactor 1

def violations (s : RetrySettings) : List Violation :=
  violationIf (s.maxAttempts = 0) "retry.max_attempts" mustBePositive
    ++ violationIf (!s.multiplierOk) "retry.multiplier" "must be a positive number"
    ++ violationIf (!s.factorOk) "retry.randomize_factor" "must be within [0, 1]"
    ++ violationIf (s.maxDelayMs < s.initialDelayMs) "retry.initial_delay_ms"
      ("must not exceed max_delay_ms (" ++ Numeral.decimal s.maxDelayMs.toNat ++ ")")

end RetrySettings

def ClientSettings.violations (s : ClientSettings) : List Violation :=
  violationIf (s.requestTimeoutMs = 0) "client.request_timeout_ms" mustBePositive
    ++ violationIf (s.connectTimeoutMs = 0) "client.connect_timeout_ms" mustBePositive

namespace ObservabilitySettings

/-- Whether the address of the counters can be read, which matters only if they are served. -/
def addressOk (s : ObservabilitySettings) : Bool :=
  !s.metricsEnabled || (Net.SocketAddress.read? s.metricsAddress).isSome

def violations (s : ObservabilitySettings) : List Violation :=
  violationIf (!s.addressOk) "observability.metrics_address"
    ("'" ++ s.metricsAddress ++ "' is not a socket address")

end ObservabilitySettings

def BreakerSettings.violations (path : String) (s : BreakerSettings) : List Violation :=
  violationIf (s.maxFailures = 0) (path ++ ".max_failures") mustBePositive
    ++ violationIf (s.halfOpenRequests = 0) (path ++ ".half_open_requests") mustBePositive

/-- What is wrong with a named breaker. -/
def namedBreakerViolations (name : String) (s : BreakerSettings) : List Violation :=
  if isBlank name then [⟨"breakers", "breaker names must not be empty"⟩]
  else s.violations ("breakers." ++ name)

/-- Every broken rule, in order. -/
def Config.violations (c : Config) : List Violation :=
  c.retry.violations ++ c.client.violations ++ c.observability.violations
    ++ c.breakerDefaults.violations "breaker_defaults"
    ++ c.breakers.entries.flatMap fun (name, s) => namedBreakerViolations name s

/-- The one message for a list of violations. -/
def Violation.summary (vs : List Violation) : String :=
  "Validation failed: " ++ ", ".intercalate (vs.map display)

end CallGuard
