/-! Turns: toggles of one product run one at a time, in the order in which they asked. A reset starts
a new era, whose queues know nothing of the earlier ones. -/

namespace Shopfront.Favourites

/-- The right to toggle a product, in the era in which it was asked for. -/
structure Turn where
  product : Int
  era : Nat
  deriving DecidableEq, Repr

/-- The toggles at work or waiting under one turn. A queue with neither is not kept. -/
structure Queue where
  turn : Turn
  held : Bool
  waiting : List Nat
  deriving DecidableEq, Repr

abbrev Queues := List Queue

namespace Queues

def isFree (turn : Turn) (qs : Queues) : Bool := !qs.any (·.turn == turn)

/-- Take a free turn. -/
def take (turn : Turn) (qs : Queues) : Queues := qs ++ [⟨turn, true, []⟩]

/-- Wait for a turn that is not free. -/
def wait (turn : Turn) (ticket : Nat) (qs : Queues) : Queues :=
  qs.map fun q => if q.turn = turn then { q with waiting := q.waiting ++ [ticket] } else q

/-- The waiting toggle with the ticket goes to work. -/
def enter (turn : Turn) (ticket : Nat) (qs : Queues) : Queues :=
  qs.map fun q =>
    if q.turn = turn then { q with held := true, waiting := q.waiting.erase ticket } else q

/-- The toggle at work has ended. -/
def leave (turn : Turn) (qs : Queues) : Queues :=
  (qs.map fun q => if q.turn = turn then { q with held := false } else q).filter fun q =>
    q.held || !q.waiting.isEmpty

/-- The ticket that is woken when the turn is left. -/
def first? (turn : Turn) (qs : Queues) : Option Nat :=
  (qs.find? (·.turn == turn)).bind (·.waiting.head?)

end Queues

end Shopfront.Favourites
