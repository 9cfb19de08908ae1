import CallGuard.Journal.Signal

/-! Log events: a level, a message and fields, each with its text. -/

namespace CallGuard

inductive Level
  | trace
  | debug
  | info
  | warn
  | error
deriving DecidableEq

namespace Level

def text : Level → String
  | trace => "TRACE"
  | debug => "DEBUG"
  | info => "INFO"
  | warn => "WARN"
  | error => "ERROR"

/-- Higher levels are more severe. -/
def severity : Level → Nat
  | trace => 1
  | debug => 2
  | info => 3
  | warn => 4
  | error => 5

end Level

/-- The text of a field and whether a log line quotes it. -/
structure FieldText where
  text : String
  isQuoted : Bool := false
deriving DecidableEq

/-- A field shown as it is. -/
def FieldText.bare (text : String) : FieldText := ⟨text, false⟩

def FieldText.count (n : Nat) : FieldText := .bare (Text.Numeral.decimal n)

structure LogEvent where
  level : Level
  target : String
  message : String
  fields : List (String × FieldText)
deriving DecidableEq

/-- The event as a log line without its time. -/
def LogEvent.line (e : LogEvent) : String :=
  e.level.text ++ " " ++ e.target ++ ": " ++ e.message
    ++ String.join (e.fields.map fun (name, v) =>
      " " ++ name ++ "=" ++ if v.isQuoted then Text.quoted v.text else v.text)

/-- The log event of a signal; outcomes of single attempts and refusals have none. -/
def Signal.event? : Signal → Option LogEvent
  | .registered breaker s => some ⟨.debug, registry, "Registering circuit breaker",
      [("breaker", .bare breaker), ("max_failures", .count s.maxFailures.toNat),
        ("reset_timeout_ms", .count s.resetTimeoutMs.toNat),
        ("half_open_requests", .count s.halfOpenRequests.toNat)]⟩
  | .resetByHand breaker =>
    some ⟨.info, circuit, "Circuit breaker reset", [("breaker", .bare breaker)]⟩
  | .trippedByHand breaker =>
    some ⟨.warn, circuit, "Circuit breaker tripped manually", [("breaker", .bare breaker)]⟩
  | .changed breaker c =>
    some ⟨if c.target = .opened then .warn else .info, circuit, "Circuit breaker state changed",
      [("breaker", .bare breaker), ("from", .bare c.source.text), ("to", .bare c.target.text)]⟩
  | .terminal attempt error => some ⟨.debug, retries, "Error is not retryable",
      [("attempt", .count attempt), ("error", .bare error)]⟩
  | .exhausted attempts error => some ⟨.warn, retries, "Retries exhausted",
      [("attempts", .count attempts), ("error", .bare error)]⟩
  | .waiting attempt delay error => some ⟨.debug, retries, "Retrying after failure",
      [("attempt", .count attempt), ("delay", .bare delay.text), ("error", .bare error)]⟩
  | .declined attempt error => some ⟨.debug, retries, "Retry policy declined another attempt",
      [("attempt", .count attempt), ("error", .bare error)]⟩
  | .errorStatus url status => some ⟨.debug, client, "Agent returned error status",
      [("url", .bare url), ("status", .bare status)]⟩
  | .started version => some ⟨.info, program, "agent-resilience starting",
      [("version", ⟨version, true⟩)]⟩
  | .metricsServed address =>
    some ⟨.info, metrics, "Metrics endpoint started", [("address", .bare address)]⟩
  | .interrupted => some ⟨.info, program, "Interrupt received, cancelling outstanding calls", []⟩
  | .callSucceeded call invocation state => some ⟨.info, program, "Call succeeded",
      [("call", .count call), ("invocation", .count invocation), ("state", .bare state.text)]⟩
  | .callRefused call state error => some ⟨.warn, program, "Call rejected by breaker",
      [("call", .count call), ("state", .bare state.text), ("error", .bare error)]⟩
  | .callFailed call state failures error => some ⟨.warn, program, "Call failed",
      [("call", .count call), ("state", .bare state.text), ("failures", .count failures),
        ("error", .bare error)]⟩
  | .simulated state invocations => some ⟨.info, program, "Simulation finished",
      [("state", .bare state.text), ("invocations", .count invocations)]⟩
  | .refused _ _ | .succeeded | .failed => none
where
  program := "agent_resilience"
  metrics := "agent_resilience::observability::metrics"
  registry := "agent_resilience::resilience::registry"
  circuit := "agent_resilience::resilience::circuit_breaker"
  retries := "agent_resilience::resilience::retries"
  client := "agent_resilience::transport::client"

namespace Journal

/-- The log events of a journal in order. -/
def events (j : Journal) : List LogEvent := j.filterMap (·.signal.event?)

end Journal

end CallGuard
