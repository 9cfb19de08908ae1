import CallGuard.Breaker.Registry
import CallGuard.Guard

/-! A simulated dependency that fails a number of times and then works, called again and
again through a breaker around repeated attempts. The simulation ends when the calls are
made or its scope ends. Some time may pass before each call and in each invocation. -/

namespace CallGuard

structure Simulation where
  dependency : String
  failures : Nat
  calls : Nat
  interval : Duration

namespace Simulation

/-- The error of a failing invocation, counted from one. -/
structure Failure where
  number : Nat

def Failure.message (f : Failure) : String :=
  "simulated agent failure #" ++ Text.Numeral.decimal f.number

/-- The dependency after some invocations: the next fails while it is among the first so many;
`took` is the time that each takes. -/
def operation (failures : Nat) (took : Nat → Nat) (before : Nat) : Retry.Operation Failure Nat :=
  fun k scope now =>
    let n := before + k + 1
    ⟨if n ≤ failures then .error ⟨n⟩ else .ok n, scope, now + took n, []⟩

/-- Every failure is worth another attempt. -/
def classifier : Retry.Classifier Failure := ⟨fun _ => true, Failure.message⟩

abbrev Outcome := Except (GuardError (RetryError Failure)) Nat

/-- The breaker and the number of invocations between calls, and the time. -/
structure State where
  session : Breaker.Session
  invocations : Nat := 0
  now : Instant

/-- What is reported of a call. -/
def report (call : Nat) (breaker : Breaker) : Outcome → Signal
  | .ok n => .callSucceeded call n breaker.state
  | .error (.refused why) => .callRefused call breaker.state why.message
  | .error (.failed e) =>
    .callFailed call breaker.state breaker.failures (e.message Failure.message)

/-- One call of a number. -/
def call (s : Simulation) (plan : Retry.Plan) (pick : Nat → Backoff.Sampler) (scope : Scope)
    (took : Nat → Nat) (number : Nat) (state : State) : State × Outcome × Journal :=
  let g := state.session.guard
    (plan.run pick classifier (operation s.failures took state.invocations)) scope state.now
  let now := g.run.elim state.now (·.now)
  (⟨g.session, state.invocations + g.run.elim 0 Retry.Run.count, now⟩, g.result,
    g.journal ++ .stamp now [report number g.session.breaker g.result])

/-- What a simulation comes to: its outcomes in order, what is left, and what happened. -/
structure Ending where
  outcomes : List Outcome
  state : State
  journal : Journal

/-- So many more calls, so many having been made; `pace` is the time before each. -/
def callsFrom (s : Simulation) (plan : Retry.Plan) (pick : Nat → Backoff.Sampler) (scope : Scope)
    (pace took : Nat → Nat) (made : Nat) : Nat → State → Ending
  | 0, state => ⟨[], state, []⟩
  | left + 1, state =>
    let state := { state with now := state.now + pace made }
    if (scope.error? state.now).isSome then ⟨[], state, []⟩
    else
      let (after, outcome, journal) := s.call plan pick scope took (made + 1) state
      match scope.sleep after.now s.interval with
      | .error (t, _) => ⟨[outcome], { after with now := t }, journal⟩
      | .ok t =>
        let e := callsFrom s plan pick scope pace took (made + 1) left { after with now := t }
        ⟨outcome :: e.outcomes, e.state, journal ++ e.journal⟩

/-- The simulation under given settings. -/
def run (s : Simulation) (c : Config) (pick : Nat → Backoff.Sampler) (scope : Scope)
    (pace took : Nat → Nat) (now : Instant) : Ending :=
  let (_, session, registration) := (Registry.ofConfig c).obtain now s.dependency
  let e := s.callsFrom (.ofSettings c.retry) pick scope pace took 0 s.calls ⟨session, 0, now⟩
  ⟨e.outcomes, e.state, registration ++ e.journal
    ++ .stamp e.state.now [.simulated e.state.session.breaker.state e.state.invocations]⟩

end Simulation

end CallGuard
