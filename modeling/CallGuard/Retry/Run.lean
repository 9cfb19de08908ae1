import CallGuard.Journal.Signal
import CallGuard.Retry.Error
import CallGuard.Retry.Plan

/-! Repeating an operation in a scope. Before each attempt the scope is looked at, and a
wait ends early when the scope does. A plan repeats until the attempts are used up; a
policy is asked after each failure whether and after which delay to go on. -/

namespace CallGuard.Retry

/-- What an attempt comes to, the scope and the time after it, and what happened in it. -/
structure Attempt (ε α : Type) where
  outcome : Except ε α
  scope : Scope
  now : Instant
  journal : Journal := []

/-- What is repeated: its attempt of a number, counted from zero, in a scope at an instant. -/
abbrev Operation (ε α : Type) := Nat → Scope → Instant → Attempt ε α

/-- What the attempts came to, when each began and ended, and the scope and the time after them. -/
structure Run (ε α : Type) where
  result : Except (RetryError ε) α
  attempts : List (Instant × Instant)
  scope : Scope
  now : Instant
  journal : Journal

namespace Run

variable {ε α : Type}

/-- The number of attempts made. -/
def count (r : Run ε α) : Nat := r.attempts.length

/-- No attempt, the scope having ended before it. -/
def stopped (e : ContextError) (scope : Scope) (now : Instant) : Run ε α :=
  ⟨.error (.cancelled e), [], scope, now, []⟩

/-- One last attempt. -/
def last (start : Instant) (a : Attempt ε α) (result : Except (RetryError ε) α)
    (signals : List Signal) : Run ε α :=
  ⟨result, [(start, a.now)], a.scope, a.now, a.journal ++ .stamp a.now signals⟩

/-- One attempt before others. -/
def before (start : Instant) (a : Attempt ε α) (signals : List Signal) (r : Run ε α) : Run ε α :=
  { r with
    attempts := (start, a.now) :: r.attempts
    journal := a.journal ++ .stamp a.now signals ++ r.journal }

end Run

variable {ε α : Type}

/-- A failed attempt, a wait, and if the scope outlasts it what comes then. -/
def afterWait (start : Instant) (a : Attempt ε α) (signals : List Signal) (wait : Duration)
    (next : Instant → Run ε α) : Run ε α :=
  (match a.scope.sleep a.now wait with
    | .error (t, e) => Run.stopped e a.scope t
    | .ok t => next t).before start a signals

/-- How errors are told: which are worth another attempt, and their messages. -/
structure Classifier (ε : Type) where
  retries : ε → Bool
  message : ε → String

/-! ### By plan -/

/-- Attempts with one of a number and so many more left, after a delay if it fails. -/
def Plan.attemptsFrom (p : Plan) (pick : Nat → Backoff.Sampler) (c : Classifier ε)
    (op : Operation ε α) : Nat → Nat → Duration → Scope → Instant → Run ε α
  | left, k, delay, scope, now =>
    match scope.error? now with
    | some e => .stopped e scope now
    | none =>
      let a := op k scope now
      match a.outcome with
      | .ok v => .last now a (.ok v) [.succeeded]
      | .error e =>
        if !c.retries e then
          .last now a (.error (.terminal e)) [.failed, .terminal (k + 1) (c.message e)]
        else
          match left with
          | 0 => .last now a (.error (.exhausted (k + 1) e))
              [.failed, .exhausted (k + 1) (c.message e)]
          | left + 1 =>
            let wait := Backoff.jitter (pick k) delay p.factor
            afterWait now a [.failed, .waiting (k + 1) wait (c.message e)] wait
              fun t => attemptsFrom p pick c op left (k + 1) (p.next delay) a.scope t

/-- Repeats an operation by a plan. -/
def Plan.run (p : Plan) (pick : Nat → Backoff.Sampler) (c : Classifier ε) (op : Operation ε α)
    (scope : Scope) (now : Instant) : Run ε α :=
  p.attemptsFrom pick c op (p.attempts - 1) 0 p.initial scope now

/-! ### By policy -/

/-- Whether to go on after the failure of an attempt, counted from zero, and after which delay. -/
structure Policy (ε : Type) where
  retries : ε → Nat → Bool
  delay : Nat → Duration

/-- The number of an attempt as a policy sees it, which stops at the end of its range. -/
def Policy.number (k : Nat) : Nat := min k (UInt32.size - 1)

/-- Attempts from one of a number on; nothing if the policy goes on for more than so many. -/
def Policy.attemptsFrom? (p : Policy ε) (message : ε → String) (op : Operation ε α) :
    Nat → Nat → Scope → Instant → Option (Run ε α)
  | fuel, k, scope, now =>
    match scope.error? now with
    | some e => some (.stopped e scope now)
    | none =>
      let a := op k scope now
      match a.outcome with
      | .ok v => some (.last now a (.ok v) [.succeeded])
      | .error e =>
        if !p.retries e (number k) then
          some (.last now a (.error (.terminal e)) [.failed, .declined (number k) (message e)])
        else
          match fuel with
          | 0 => none
          | fuel + 1 =>
            let wait := p.delay (number k)
            let signals := [.failed, .waiting (number k) wait (message e)]
            match a.scope.sleep a.now wait with
            | .error (t, e) => some ((Run.stopped e a.scope t).before now a signals)
            | .ok t => (attemptsFrom? p message op fuel (k + 1) a.scope t).map
                (·.before now a signals)

/-- Repeats an operation by a policy that stops within the range of its numbers. -/
def Policy.run? (p : Policy ε) (message : ε → String) (op : Operation ε α) (scope : Scope)
    (now : Instant) : Option (Run ε α) :=
  p.attemptsFrom? message op UInt32.size 0 scope now

end CallGuard.Retry
