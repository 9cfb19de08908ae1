import CallGuard.Breaker.State
import CallGuard.Config.Basic
import CallGuard.Duration

/-! A breaker counts failures of the calls it guards. So many in a row open it; a call
made once the cool-down is over turns it half open and goes through as a probe, and so do
others up to the probe budget; the first outcome then closes or opens it again. Each
entry into the half-open state begins a new window, and a probe that never ends gives its
slot back to its own window only. Every operation tells which change it made. -/

namespace CallGuard

structure Breaker where
  name : String
  maxFailures : UInt32
  resetTimeout : Duration
  state : Breaker.State := .closed
  failures : Nat := 0
  lastFailure : Option Instant := none
  probes : Nat := 0
  probeBudget : UInt32 := 1
  window : UInt64 := 0
deriving DecidableEq

namespace Breaker

/-- A closed breaker; it takes one failure at least to open it. -/
def new (name : String) (maxFailures : UInt32) (resetTimeout : Duration) : Breaker :=
  { name, maxFailures := if maxFailures = 0 then 1 else maxFailures, resetTimeout }

/-- The largest number of probes at a time, one at least. -/
def setProbeBudget (b : Breaker) (n : UInt32) : Breaker :=
  { b with probeBudget := if n = 0 then 1 else n }

/-- A breaker with given settings. -/
def ofSettings (name : String) (s : BreakerSettings) : Breaker :=
  (new name s.maxFailures (.ofMillis s.resetTimeoutMs)).setProbeBudget s.halfOpenRequests

/-- The breaker in another state. To enter or leave the closed state forgets the failures,
to enter the half-open state begins a window. -/
def moveTo (b : Breaker) (s : State) : Breaker × Option Change :=
  if b.state = s then (b, none)
  else
    ({ b with
        state := s
        failures := if b.state = .closed || s = .closed then 0 else b.failures
        probes := if s = .halfOpen then 0 else b.probes
        window := if s = .halfOpen then b.window + 1 else b.window },
      some ⟨b.state, s⟩)

/-- The window whose probe a call is, if it is one. -/
structure Permit where
  window : Option UInt64
deriving DecidableEq

/-- The answer to a call that wants to start. -/
inductive Admission
  | admitted (breaker : Breaker) (permit : Permit) (change : Option Change)
  | refused (why : Refusal)
deriving DecidableEq

/-- Whether more than the cool-down has passed since the last failure. -/
def cooled (b : Breaker) (now : Instant) : Bool :=
  match b.lastFailure with
  | none => true
  | some t => b.resetTimeout.nanos < now - t

/-- Lets a call through or refuses it. -/
def enter (b : Breaker) (now : Instant) : Admission :=
  match b.state with
  | .closed => .admitted b ⟨none⟩ none
  | .opened =>
    if b.cooled now then
      let (b, change) := b.moveTo .halfOpen
      .admitted { b with probes := 1 } ⟨some b.window⟩ change
    else .refused .opened
  | .halfOpen =>
    if b.probes < b.probeBudget.toNat then
      .admitted { b with probes := b.probes + 1 } ⟨some b.window⟩ none
    else .refused .probesUsed

/-- Records that a call succeeded. -/
def succeed (b : Breaker) : Breaker × Option Change :=
  match b.state with
  | .closed => ({ b with failures := 0 }, none)
  | .halfOpen => b.moveTo .closed
  | .opened => (b, none)

/-- Records that a call failed. -/
def fail (b : Breaker) (now : Instant) : Breaker × Option Change :=
  match b.state with
  | .closed =>
    let b := { b with failures := b.failures + 1, lastFailure := some now }
    if b.maxFailures.toNat ≤ b.failures then b.moveTo .opened else (b, none)
  | .halfOpen =>
    let (b, change) := b.moveTo .opened
    ({ b with failures := 1, lastFailure := some now }, change)
  | .opened => (b, none)

/-- Records the outcome of a call. -/
def settle (b : Breaker) (now : Instant) (succeeded : Bool) : Breaker × Option Change :=
  if succeeded then b.succeed else b.fail now

/-- Takes back the slot of a probe that never ended, if its window still lasts. -/
def release (b : Breaker) (permit : Permit) : Breaker :=
  if b.state = .halfOpen && permit.window = some b.window then { b with probes := b.probes - 1 }
  else b

/-- Closes the breaker and forgets all failures. -/
def reset (b : Breaker) : Breaker × Option Change :=
  let (b, change) := b.moveTo .closed
  ({ b with failures := 0, probes := 0, lastFailure := none }, change)

/-- Opens the breaker as if it had just seen a failure. -/
def trip (b : Breaker) (now : Instant) : Breaker × Option Change :=
  let (b, change) := b.moveTo .opened
  ({ b with lastFailure := some now }, change)

open Text in
/-- Diagnostic text. -/
def text (b : Breaker) : String :=
  record "CircuitBreaker" [("name", quoted b.name), ("state", b.state.label),
    ("failures", Numeral.decimal b.failures), ("half_open_attempts", Numeral.decimal b.probes),
    ("half_open_requests", Numeral.decimal b.probeBudget.toNat),
    ("max_failures", Numeral.decimal b.maxFailures.toNat), ("reset_timeout", b.resetTimeout.text)]

end Breaker

end CallGuard
