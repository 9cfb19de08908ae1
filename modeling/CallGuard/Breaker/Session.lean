import CallGuard.Breaker.Basic
import CallGuard.Breaker.Channel
import CallGuard.Journal.Signal

/-! A breaker in use: the calls it has admitted and that have not ended, the channel of its
changes and the observer told of them. Its operations are what its users do, each at an
instant. A call that is refused leaves everything as it was. -/

namespace CallGuard.Breaker

/-- A breaker, its calls in flight by name, and those who follow its changes. -/
structure Session where
  breaker : Breaker
  live : NameMap Permit := .empty
  channel : Channel := {}
  observer : Option String := none
  observed : List (String × Change) := []

/-- What the users of a breaker do. -/
inductive Op (ε α : Type)
  | call (outcome : Except ε α)
  | crash
  | start (id : String)
  | finish (id : String) (outcome : Except ε α)
  | abandon (id : String)
  | reset
  | trip
  | setProbeBudget (n : UInt32)
  | subscribe (id : String)
  | read (id : String)
  | observe (tag : String)
  | collect

/-- What they get: `unknown` if there is no call or subscription of that name. -/
inductive Reply (ε α : Type)
  | done
  | unknown
  | running
  | crashed
  | result (r : Except (GuardError ε) α)
  | delivery (d : Channel.Delivery)
  | observed (changes : List (String × Change))

/-- The outcome of an operation: its reply, whether a call was started, and what happened. -/
structure Answer (ε α : Type) where
  session : Session
  reply : Reply ε α
  invoked : Bool := false
  journal : Journal := []

namespace Session

variable {ε α : Type}

/-- The session after its breaker made a change, if it made one. -/
def follow (s : Session) (step : Breaker × Option Change) : Session :=
  match step.2 with
  | none => { s with breaker := step.1 }
  | some c => { s with
      breaker := step.1
      channel := s.channel.send c
      observed := s.observed ++ (s.observer.map (·, c)).toList }

def enter (s : Session) (now : Instant) : Except Refusal (Session × Permit × Option Change) :=
  match s.breaker.enter now with
  | .admitted b permit change => .ok (s.follow (b, change), permit, change)
  | .refused why => .error why

/-- The session after a call that ended without an outcome. -/
def release (s : Session) (permit : Permit) : Session :=
  { s with breaker := s.breaker.release permit }

/-- The session without a call in flight, which ended without an outcome. -/
def abandon (s : Session) (id : String) : Session :=
  match s.live.get? id with
  | none => s
  | some permit => { s.release permit with live := s.live.erase id }

/-- Records the outcome of a call. -/
def settle (s : Session) (now : Instant) (outcome : Except ε α) : Session × Option Change :=
  let step := s.breaker.settle now outcome.toBool
  (s.follow step, step.2)

/-- The answer to a call that is not let through. -/
def refuse (s : Session) (now : Instant) (why : Refusal) : Answer ε α :=
  ⟨s, .result (.error (.refused why)), false, .stamp now [.refused s.breaker.name why]⟩

def step (now : Instant) (s : Session) : Op ε α → Answer ε α
  | .call outcome =>
    match s.enter now with
    | .error why => s.refuse now why
    | .ok (s, _, admission) =>
      let (s, change) := s.settle now outcome
      ⟨s, .result (outcome.mapError .failed), true,
        .ofChange now s.breaker.name admission ++ .ofChange now s.breaker.name change⟩
  | .crash =>
    match s.enter now with
    | .error why => s.refuse now why
    | .ok (s, permit, change) =>
      ⟨s.release permit, .crashed, true, .ofChange now s.breaker.name change⟩
  | .start id =>
    let s := s.abandon id
    match s.enter now with
    | .error why => s.refuse now why
    | .ok (s, permit, change) =>
      ⟨{ s with live := s.live.insert id permit }, .running, true,
        .ofChange now s.breaker.name change⟩
  | .finish id outcome =>
    match s.live.get? id with
    | none => ⟨s, .unknown, false, []⟩
    | some _ =>
      let (s, change) := s.settle now outcome
      ⟨{ s with live := s.live.erase id }, .result (outcome.mapError .failed), false,
        .ofChange now s.breaker.name change⟩
  | .abandon id =>
    match s.live.get? id with
    | none => ⟨s, .unknown, false, []⟩
    | some _ => ⟨s.abandon id, .done, false, []⟩
  | .reset =>
    let step := s.breaker.reset
    ⟨s.follow step, .done, false,
      .stamp now [.resetByHand s.breaker.name] ++ .ofChange now s.breaker.name step.2⟩
  | .trip =>
    let step := s.breaker.trip now
    ⟨s.follow step, .done, false,
      .stamp now [.trippedByHand s.breaker.name] ++ .ofChange now s.breaker.name step.2⟩
  | .setProbeBudget n => ⟨{ s with breaker := s.breaker.setProbeBudget n }, .done, false, []⟩
  | .subscribe id => ⟨{ s with channel := s.channel.subscribe id }, .done, false, []⟩
  | .read id =>
    match s.channel.read? id with
    | none => ⟨s, .unknown, false, []⟩
    | some (delivery, channel) => ⟨{ s with channel := channel }, .delivery delivery, false, []⟩
  | .observe tag => ⟨{ s with observer := some tag }, .done, false, []⟩
  | .collect => ⟨{ s with observed := [] }, .observed s.observed, false, []⟩

/-- The session after operations at their instants, with everything that happened. -/
def run (s : Session) : List (Instant × Op ε α) → Session × Journal
  | [] => (s, [])
  | (now, op) :: ops =>
    let a := s.step now op
    let (s, journal) := run a.session ops
    (s, a.journal ++ journal)

end Session

end CallGuard.Breaker
