import CallGuard.Journal.Signal

/-! Counters: a name with labels. Each signal counts one of them up or none, and a journal
sums up to the number of times each was counted. -/

namespace CallGuard

structure Counter where
  name : String
  labels : List (String × String)
deriving DecidableEq

namespace Counter

def transition (breaker : String) (c : Breaker.Change) : Counter :=
  ⟨"resilience_breaker_transitions_total",
    [("breaker", breaker), ("from", c.source.text), ("to", c.target.text)]⟩

def rejection (breaker : String) (why : Breaker.Refusal) : Counter :=
  ⟨"resilience_breaker_rejections_total", [("breaker", breaker), ("reason", why.reason)]⟩

def attempt (outcome : String) : Counter :=
  ⟨"resilience_retry_attempts_total", [("outcome", outcome)]⟩

def exhaustion : Counter := ⟨"resilience_retry_exhausted_total", []⟩

/-- The counter's name with its labels as they are. -/
def text (c : Counter) : String :=
  c.name ++ "\x7b" ++ ",".intercalate (c.labels.map fun (k, v) => k ++ "=" ++ v) ++ "\x7d"

end Counter

/-- The counter that a signal counts up. -/
def Signal.counter? : Signal → Option Counter
  | .changed breaker c => some (.transition breaker c)
  | .refused breaker why => some (.rejection breaker why)
  | .succeeded => some (.attempt "success")
  | .failed => some (.attempt "failure")
  | .exhausted _ _ => some .exhaustion
  | _ => none

namespace Journal

/-- How often a counter was counted up. -/
def count (j : Journal) (c : Counter) : Nat := (j.filterMap (·.signal.counter?)).count c

/-- The counters that were counted up, each with its count. -/
def counters (j : Journal) : List (Counter × Nat) :=
  (j.filterMap (·.signal.counter?)).eraseDups.map fun c => (c, j.count c)

end Journal

end CallGuard
