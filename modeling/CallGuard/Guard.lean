import CallGuard.Breaker.Session
import CallGuard.Retry.Run

/-! A breaker around repeated attempts: the run as a whole is one call of the breaker, and
its result is the outcome that the breaker records. -/

namespace CallGuard

/-- What a guarded run comes to: the result, the run unless it was refused, the breaker
after it, and what happened. -/
structure Guarded (ε α : Type) where
  session : Breaker.Session
  result : Except (GuardError (RetryError ε)) α
  run : Option (Retry.Run ε α)
  journal : Journal

namespace Breaker.Session

variable {ε α : Type}

/-- One call of the breaker with nothing else meanwhile. -/
def guard (s : Session) (call : Scope → Instant → Retry.Run ε α) (scope : Scope) (now : Instant) :
    Guarded ε α :=
  match s.enter now with
  | .error why => ⟨s, .error (.refused why), none, .stamp now [.refused s.breaker.name why]⟩
  | .ok (s, _, admission) =>
    let run := call scope now
    let (s, change) := s.settle run.now run.result
    ⟨s, run.result.mapError .failed, some run,
      .ofChange now s.breaker.name admission ++ run.journal
        ++ .ofChange run.now s.breaker.name change⟩

end Breaker.Session

end CallGuard
