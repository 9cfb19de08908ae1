import CallGuard.Context.Scope
import CallGuard.NameMap

/-! Contexts form a tree: each is derived from another or is a root. To cancel one cancels
all that are derived from it, then and later; a deadline is never later than that of the
context it is derived from. A context holds its own token and those of all it is derived
from, and copies share one token. -/

namespace CallGuard

/-- A token and those it is derived from, its own first, and the deadline in force. -/
structure Context where
  lineage : List Nat
  deadline : Option Instant := none
deriving DecidableEq

/-- The tokens given out so far, and when some of them were cancelled. -/
structure Cancellations where
  issued : Nat := 0
  instants : List (Nat × Instant) := []

namespace Context

/-- A new token on top of a lineage. -/
def derive (cs : Cancellations) (lineage : List Nat) (deadline : Option Instant) :
    Context × Cancellations :=
  (⟨cs.issued :: lineage, deadline⟩, { cs with issued := cs.issued + 1 })

/-- A new root. -/
def background (cs : Cancellations) : Context × Cancellations := derive cs [] none

/-- A context that is cancelled together with another. -/
def child (c : Context) (cs : Cancellations) : Context × Cancellations :=
  derive cs c.lineage c.deadline

/-- A context with a deadline, or that of its parent if it is earlier. -/
def withDeadline (c : Context) (cs : Cancellations) (t : Instant) : Context × Cancellations :=
  derive cs c.lineage (Scope.earlier c.deadline (some t))

/-- A context that ends after a time, if the clock has such an instant. -/
def withTimeout? (c : Context) (cs : Cancellations) (now : Instant) (d : Duration) :
    Option (Context × Cancellations) :=
  (Instant.after? now d).map (c.withDeadline cs)

/-- Cancels a context at an instant, which may be still to come. -/
def cancel (c : Context) (cs : Cancellations) (t : Instant) : Cancellations :=
  { cs with instants := (c.lineage.take 1).map (·, t) ++ cs.instants }

/-- When a context is cancelled, in itself or in one that it is derived from. -/
def cancelledAt (c : Context) (cs : Cancellations) : Option Instant :=
  (cs.instants.filter fun e => c.lineage.contains e.1).foldr
    (fun e t => Scope.earlier (some e.2) t) none

/-- When a context ends. -/
def scope (c : Context) (cs : Cancellations) : Scope := ⟨c.cancelledAt cs, c.deadline⟩

end Context

/-! ### Contexts by name -/

/-- Named contexts, their cancellations, and the time. -/
structure Contexts where
  now : Instant := 0
  cancellations : Cancellations := {}
  named : NameMap Context := .empty

namespace Contexts

/-- What the holders of contexts do. -/
inductive Op
  | background (name : String)
  | copy (source name : String)
  | child (source name : String)
  | timeout (source name : String) (d : Duration)
  | deadline (source name : String) (t : Instant)
  | cancel (source : String)
  | advance (d : Duration)
  | done (source : String) (within : Duration)
  | doneWhile (source : String) (within : Duration) (other : String) (after : Duration)

/-- What they get: `overflow` if the clock has no such instant, `ended` if the wait saw the
scope end, `pending` if it did not. -/
inductive Reply
  | none
  | unknown
  | overflow
  | ended (e : ContextError)
  | pending
deriving DecidableEq

def scope? (s : Contexts) (name : String) : Option Scope :=
  (s.named.get? name).map fun c => c.scope s.cancellations

def put (s : Contexts) (name : String) (r : Context × Cancellations) : Contexts × Reply :=
  ({ s with named := s.named.insert name r.1, cancellations := r.2 }, .none)

/-- Waits for the end of a scope, for a time at most. -/
def await (s : Contexts) (c : Context) (within : Duration) : Contexts × Reply :=
  let limit := Instant.sleepEnd s.now within
  match (c.scope s.cancellations).ending? s.now with
  | some (t, e) =>
    if t ≤ limit then ({ s with now := t }, .ended e) else ({ s with now := limit }, .pending)
  | .none => ({ s with now := limit }, .pending)

/-- What the holder of a context does with it. -/
def withContext (s : Contexts) (name : String) (act : Context → Contexts × Reply) :
    Contexts × Reply :=
  match s.named.get? name with
  | some c => act c
  | .none => (s, .unknown)

def step (s : Contexts) : Op → Contexts × Reply
  | .background name => s.put name (Context.background s.cancellations)
  | .copy source name => s.withContext source fun c => s.put name (c, s.cancellations)
  | .child source name => s.withContext source fun c => s.put name (c.child s.cancellations)
  | .timeout source name d => s.withContext source fun c =>
    match c.withTimeout? s.cancellations s.now d with
    | some r => s.put name r
    | .none => (s, .overflow)
  | .deadline source name t => s.withContext source fun c =>
    s.put name (c.withDeadline s.cancellations t)
  | .cancel source => s.withContext source fun c =>
    ({ s with cancellations := c.cancel s.cancellations s.now }, .none)
  | .advance d => ({ s with now := s.now + d.nanos }, .none)
  | .done source within => s.withContext source fun c => s.await c within
  | .doneWhile source within other after => s.withContext source fun c =>
    s.withContext other fun o =>
      let t := Instant.sleepEnd s.now after
      let (ended, reply) :=
        { s with cancellations := o.cancel s.cancellations t }.await c within
      (if t ≤ ended.now then ended else { ended with cancellations := s.cancellations }, reply)

end Contexts

end CallGuard
