import CallGuard.Fault
import CallGuard.Retry.Run

/-! The exponential and the linear schedule as policies: each goes on while attempts are
left and the error is worth another. -/

namespace CallGuard.Retry

variable {ε : Type}

def Policy.exponential (p : Backoff.Exponential) (pick : Nat → Backoff.Sampler)
    (fault : ε → Fault) : Policy ε where
  retries e k := Backoff.attemptsLeft p.maxAttempts k && (fault e).isRetryable
  delay k := p.delay (pick k) k

def Policy.linear (p : Backoff.Linear) (fault : ε → Fault) : Policy ε where
  retries e k := Backoff.attemptsLeft p.maxAttempts k && (fault e).isRetryable
  delay k := p.delay k

end CallGuard.Retry
