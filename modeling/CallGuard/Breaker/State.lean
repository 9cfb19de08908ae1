/-! The three states of a breaker, a change from one to another, and the two ways to
refuse a call. -/

namespace CallGuard

/-- `closed` lets calls through, `opened` refuses them, `halfOpen` lets a few probes through. -/
inductive Breaker.State
  | closed
  | opened
  | halfOpen
deriving DecidableEq

namespace Breaker

/-- The state as reported in events and counters. -/
def State.text : State → String
  | .closed => "closed"
  | .opened => "open"
  | .halfOpen => "half_open"

/-- The state in diagnostic text. -/
def State.label : State → String
  | .closed => "Closed"
  | .opened => "Open"
  | .halfOpen => "HalfOpen"

structure Change where
  source : State
  target : State
deriving DecidableEq

/-- Why a call is not let through. -/
inductive Refusal
  | opened
  | probesUsed
deriving DecidableEq

/-- The reason under which a refusal is counted. -/
def Refusal.reason : Refusal → String
  | .opened => "open"
  | .probesUsed => "too_many_requests"

def Refusal.message : Refusal → String
  | .opened => "circuit breaker is open"
  | .probesUsed => "too many requests while circuit breaker is half-open"

end Breaker

/-- Why a guarded call has no value: it was refused, or it ran and failed. -/
inductive GuardError (ε : Type)
  | refused (why : Breaker.Refusal)
  | failed (error : ε)
deriving DecidableEq

namespace GuardError

variable {ε : Type}

def isRefusal : GuardError ε → Bool
  | refused _ => true
  | failed _ => false

/-- The error of the call itself, if it ran. -/
def inner? : GuardError ε → Option ε
  | refused _ => none
  | failed e => some e

def message (text : ε → String) : GuardError ε → String
  | refused why => why.message
  | failed e => text e

end GuardError

end CallGuard
