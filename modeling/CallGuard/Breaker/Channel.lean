import CallGuard.Breaker.State
import CallGuard.NameMap

/-! A bounded channel of changes. It holds the last 64; a reader who is further behind is
told how many are lost and gets the rest. A subscription begins with the changes after it. -/

namespace CallGuard.Breaker

/-- The changes sent so far by number, the last ones of them in order, and for each
subscription how many it has seen or lost. -/
structure Channel where
  sent : Nat := 0
  recent : List Change := []
  positions : NameMap Nat := .empty

namespace Channel

def capacity : Nat := 64

/-- The last so many of a list. -/
def lastOf {α : Type} (n : Nat) (l : List α) : List α := l.drop (l.length - n)

def send (c : Channel) (change : Change) : Channel :=
  { c with sent := c.sent + 1, recent := lastOf capacity (c.recent ++ [change]) }

/-- Begins a subscription, in place of one of the same name. -/
def subscribe (c : Channel) (id : String) : Channel :=
  { c with positions := c.positions.insert id c.sent }

/-- What a subscription gets: how many changes are lost, and those after them. -/
structure Delivery where
  lost : Nat
  changes : List Change
deriving DecidableEq

/-- Everything a subscription has not seen yet. -/
def read? (c : Channel) (id : String) : Option (Delivery × Channel) :=
  (c.positions.get? id).map fun position =>
    let behind := c.sent - position
    (⟨behind - capacity, lastOf behind c.recent⟩,
      { c with positions := c.positions.insert id c.sent })

end Channel

end CallGuard.Breaker
