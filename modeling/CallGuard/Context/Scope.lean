import CallGuard.Duration

/-! When a scope ends: at its cancellation or at its deadline. A cancellation counts first,
whatever the deadline. One who waits for the end wakes at a whole millisecond. -/

namespace CallGuard

/-- Why a scope has ended. -/
inductive ContextError
  | canceled
  | deadlineExceeded
deriving DecidableEq

def ContextError.message : ContextError → String
  | canceled => "context canceled"
  | deadlineExceeded => "context deadline exceeded"

/-- The reason in diagnostic text. -/
def ContextError.label : ContextError → String
  | canceled => "Canceled"
  | deadlineExceeded => "DeadlineExceeded"

/-- The instants at which a scope ends, as far as there are any. -/
structure Scope where
  cancelled : Option Instant := none
  deadline : Option Instant := none
deriving DecidableEq

namespace Scope

/-- The earlier of two instants, where none is later than all. -/
def earlier : Option Instant → Option Instant → Option Instant
  | none, t => t
  | t, none => t
  | some s, some t => some (min s t)

/-- Whether an instant has come. -/
def reached (t : Option Instant) (now : Instant) : Bool := t.any (· ≤ now)

/-- Why the scope has ended, if it has. -/
def error? (s : Scope) (now : Instant) : Option ContextError :=
  if reached s.cancelled now then some .canceled
  else if reached s.deadline now then some .deadlineExceeded
  else none

/-- The scope, cancelled now if it was not before. -/
def cancel (s : Scope) (now : Instant) : Scope :=
  { s with cancelled := earlier s.cancelled (some now) }

/-- When one who waits for an instant wakes: at once if it has come. -/
def wakeAt (now t : Instant) : Instant := if t ≤ now then now else Instant.wake t

/-- When and why one who waits from now on for the end of the scope wakes, if ever. -/
def ending? (s : Scope) (now : Instant) : Option (Instant × ContextError) :=
  let cancellation := s.cancelled.map fun t => (max now t, ContextError.canceled)
  let expiry := s.deadline.map fun t => (wakeAt now t, ContextError.deadlineExceeded)
  match cancellation, expiry with
  | none, e => e
  | c, none => c
  | some c, some e => if c.1 ≤ e.1 then some c else some e

/-- Waits for a time unless the scope ends before. The outcome is when the wait is over,
or when and why the scope ended. -/
def sleep (s : Scope) (now : Instant) (wait : Duration) : Except (Instant × ContextError) Instant :=
  let awake := Instant.sleepEnd now wait
  match s.ending? now with
  | none => .ok awake
  | some (t, e) => if t < awake then .error (t, e) else .ok awake

end Scope

end CallGuard
