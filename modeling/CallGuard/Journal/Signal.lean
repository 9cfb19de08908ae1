import CallGuard.Breaker.State
import CallGuard.Config.Basic
import CallGuard.Duration

/-! The journal: what happens in guarded calls, in order and with its time. Log events,
counters and printed lines are views of it. -/

namespace CallGuard

/-- Something that happened. Errors and states appear with their texts. -/
inductive Signal
  | registered (breaker : String) (settings : BreakerSettings)
  | resetByHand (breaker : String)
  | trippedByHand (breaker : String)
  | changed (breaker : String) (change : Breaker.Change)
  | refused (breaker : String) (why : Breaker.Refusal)
  | succeeded
  | failed
  | terminal (attempt : Nat) (error : String)
  | exhausted (attempts : Nat) (error : String)
  | waiting (attempt : Nat) (delay : Duration) (error : String)
  | declined (attempt : Nat) (error : String)
  | errorStatus (url : String) (status : String)
  | started (version : String)
  | metricsServed (address : String)
  | interrupted
  | callSucceeded (call invocation : Nat) (state : Breaker.State)
  | callRefused (call : Nat) (state : Breaker.State) (error : String)
  | callFailed (call : Nat) (state : Breaker.State) (failures : Nat) (error : String)
  | simulated (state : Breaker.State) (invocations : Nat)
deriving DecidableEq

/-- A signal and its time. -/
structure Entry where
  time : Instant
  signal : Signal
deriving DecidableEq

/-- What happened, in order. -/
abbrev Journal := List Entry

namespace Signal

/-- The change a signal tells of, if any. -/
def change? : Signal → Option Breaker.Change
  | changed _ c => some c
  | _ => none

end Signal

namespace Journal

/-- Signals of one instant. -/
def stamp (now : Instant) (signals : List Signal) : Journal := signals.map (⟨now, ·⟩)

/-- The signal of a change, if one was made. -/
def ofChange (now : Instant) (breaker : String) (change : Option Breaker.Change) : Journal :=
  stamp now (change.map (Signal.changed breaker)).toList

/-- The changes that a journal tells of. -/
def changes (j : Journal) : List Breaker.Change := j.filterMap (·.signal.change?)

end Journal

end CallGuard
