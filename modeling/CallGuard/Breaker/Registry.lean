import CallGuard.Breaker.Session

/-! One breaker for each dependency, made on first use with the settings of its name, or
the default settings. -/

namespace CallGuard

structure Registry where
  defaults : BreakerSettings := {}
  overrides : NameMap BreakerSettings := .empty
  sessions : NameMap Breaker.Session := .empty

namespace Registry

open Breaker

variable {ε α : Type}

def ofConfig (c : Config) : Registry := ⟨c.breakerDefaults, c.breakers, .empty⟩

/-- The settings of a dependency's breaker. -/
def settings (r : Registry) (name : String) : BreakerSettings :=
  (r.overrides.get? name).getD r.defaults

def get? (r : Registry) (name : String) : Option Session := r.sessions.get? name

/-- The number of breakers made so far. -/
def size (r : Registry) : Nat := r.sessions.size

/-- A breaker nobody has used yet. -/
def fresh (r : Registry) (name : String) : Session :=
  ⟨.ofSettings name (r.settings name), .empty, {}, none, []⟩

def put (r : Registry) (name : String) (s : Session) : Registry :=
  { r with sessions := r.sessions.insert name s }

/-- The breaker of a dependency, which is registered if there is none. -/
def obtain (r : Registry) (now : Instant) (name : String) : Registry × Session × Journal :=
  match r.get? name with
  | some s => (r, s, [])
  | none =>
    (r.put name (r.fresh name), r.fresh name, .stamp now [.registered name (r.settings name)])

/-- An operation on the breaker of a dependency. -/
def step (r : Registry) (now : Instant) (name : String) (op : Op ε α) :
    Registry × Reply ε α × Journal :=
  let (r, s, registration) := r.obtain now name
  let a := s.step now op
  (r.put name a.session, a.reply, registration ++ a.journal)

/-- Closes every breaker, in order of their names. -/
def resetAll (r : Registry) (now : Instant) : Registry × Journal :=
  let answer (s : Session) : Answer Empty Empty := s.step now .reset
  ({ r with sessions := r.sessions.map fun _ s => (answer s).session },
    r.sessions.entries.flatMap fun e => (answer e.2).journal)

/-- The state of every breaker, in order of their names. -/
def states (r : Registry) : List (String × State) :=
  r.sessions.entries.map fun e => (e.1, e.2.breaker.state)

end Registry

end CallGuard
