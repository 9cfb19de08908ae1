import CallGuard.Context.Scope
import CallGuard.Text.Numeral

/-! Why a repeated operation has no value: its scope ended, its error was not worth
another attempt, or the attempts were used up. -/

namespace CallGuard

inductive RetryError (ε : Type)
  | cancelled (e : ContextError)
  | terminal (error : ε)
  | exhausted (attempts : Nat) (last : ε)
deriving DecidableEq

namespace RetryError

variable {ε : Type}

def isCancelled : RetryError ε → Bool
  | cancelled _ => true
  | _ => false

/-- How many attempts were used up. -/
def attempts? : RetryError ε → Option Nat
  | exhausted n _ => some n
  | _ => none

/-- The last error of the operation, if it ran. -/
def last? : RetryError ε → Option ε
  | cancelled _ => none
  | terminal e => some e
  | exhausted _ e => some e

def exhaustion (attempts : Nat) : String :=
  "max retries exceeded after " ++ Text.Numeral.decimal attempts ++ " attempts"

def message (text : ε → String) : RetryError ε → String
  | cancelled e => e.message
  | terminal e => text e
  | exhausted n _ => exhaustion n

end RetryError

end CallGuard
