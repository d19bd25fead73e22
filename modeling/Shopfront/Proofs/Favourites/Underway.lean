import Shopfront.Favourites.Operation
import Shopfront.Proofs.Underway

/-! Operations of the favourites store under way. They wait for replies like those of the other
stores; a toggle may also wait for its turn, until the step of another toggle wakes it. -/

namespace Shopfront.Favourites

/-- A toggle that waits for its turn. -/
structure Waiter where
  turn : Turn
  ticket : Nat

structure Underway where
  calls : Shopfront.Underway Point Result
  waiting : List Waiter
  /-- Toggles that were woken and have not gone on yet. -/
  woken : List Waiter

namespace Underway

def idle : Underway := ⟨.idle, [], []⟩

def wake (u : Underway) (ticket : Nat) : Underway :=
  { u with
    waiting := u.waiting.filter (·.ticket != ticket)
    woken := u.woken ++ u.waiting.filter (·.ticket == ticket) }

/-- An operation has come to its next call, into a line, or to its end. -/
def arrive (u : Underway) : Progress → Underway
  | .calling call point => { u with calls := u.calls.record (.calling call point) }
  | .queued turn ticket => { u with waiting := u.waiting ++ [⟨turn, ticket⟩] }
  | .finished result => { u with calls := u.calls.record (.finished result) }
  | .stopped fault => { u with calls := u.calls.record (.stopped fault) }

/-- A step wakes a toggle, if it does, before its own operation waits again. -/
def record (u : Underway) (s : Step) : Underway := ((s.woken.map u.wake).getD u).arrive s.progress

/-- The operation at a place among the calls goes on. -/
def takeCall (u : Underway) (place : Nat) : Underway := { u with calls := u.calls.take place }

/-- The toggle at a place among the woken ones goes on. -/
def takeWoken (u : Underway) (place : Nat) : Underway :=
  { u with woken := u.woken.eraseIdx place }

end Underway

end Shopfront.Favourites
