import CallGuard.Breaker.State
import CallGuard.Config.Validation
import CallGuard.Retry.Error
import CallGuard.Transport.Error

/-! Errors with their causes. The chain of an error is the error, its cause, the cause of
that, and so on. Some wrappers are transparent: they show the message and the cause of what
they hold, which is then no link of the chain itself. An error is worth another attempt
unless the end of a context is a link of its chain; of exchanges it is the failure itself
that tells. -/

namespace CallGuard

/-- An error of the library or of a guarded operation. -/
inductive Fault
  | leaf (message : String)
  | wrap (message : String) (cause : Fault)
  | context (e : ContextError)
  | transport (e : TransportError)
  | invalidConfig
  | retryCancelled (e : ContextError)
  | retryTerminal (held : Fault)
  | retryExhausted (attempts : Nat) (last : Fault)
  | refused (why : Breaker.Refusal)
  | guarded (held : Fault)

namespace Fault

def message : Fault → String
  | leaf m => m
  | wrap m _ => m
  | context e => e.message
  | transport e => e.message
  | invalidConfig => Violation.summary []
  | retryCancelled e => e.message
  | retryTerminal held => held.message
  | retryExhausted n _ => RetryError.exhaustion n
  | refused why => why.message
  | guarded held => held.message

/-- The causes of an error, nearest first. -/
def causes : Fault → List Fault
  | wrap _ cause => cause :: cause.causes
  | transport (.request _ failure) => [leaf failure.message]
  | transport (.decode _ error) => [leaf error.message]
  | transport (.cancelled e) => [context e]
  | retryTerminal held => held.causes
  | retryExhausted _ last => last :: last.causes
  | guarded held => held.causes
  | _ => []

/-- An error and its causes. -/
def chain (f : Fault) : List Fault := f :: f.causes

def isContext : Fault → Bool
  | context _ => true
  | _ => false

/-- Whether no link of the chain is the end of a context. -/
def isRetryable (f : Fault) : Bool := !f.chain.any isContext

/-- Whether a failed exchange is worth another, an error of any other kind another attempt. -/
def isTransportRetryable : Fault → Bool
  | transport e => e.isRetryable
  | f => f.isRetryable

/-- What a failed exchange tells of itself. -/
def exchangeRetryable? : Fault → Option Bool
  | transport e => some e.isRetryable
  | _ => none

/-- The error of a retried operation as a fault. -/
def ofRetry {ε : Type} (fault : ε → Fault) : RetryError ε → Fault
  | .cancelled e => retryCancelled e
  | .terminal e => retryTerminal (fault e)
  | .exhausted n e => retryExhausted n (fault e)

/-- The error of a guarded call as a fault. -/
def ofGuard {ε : Type} (fault : ε → Fault) : GuardError ε → Fault
  | .refused why => refused why
  | .failed e => guarded (fault e)

end Fault

end CallGuard
