import Shopfront.Cart.Operation
import Shopfront.Proofs.Underway

/-! Traffic of a cart: operations begin at any moment, replies of any kind come in any order, with or
without a credential, and the cart may be replaced by a snapshot or emptied in between. -/

namespace Shopfront.Cart

structure Traffic where
  cart : Cart
  underway : Underway Point Result

namespace Traffic

/-- What may happen next. A reply answers the call at a place among those awaited. -/
inductive Event where
  | begin (authenticated : Bool) (request : Request)
  | reply (place : Nat) (authenticated : Bool) (reply : Reply)
  | applySnapshot (payload : Payload)
  | reset

/-- A new cart, no operation begun. -/
def start : Traffic := ⟨.empty, .idle⟩

def step (t : Traffic) (s : Step) : Traffic := ⟨s.state, t.underway.record s.progress⟩

theorem awaited_step (t : Traffic) (s : Step) :
    (t.step s).underway.awaited = t.underway.awaited ++ (Underway.callOf? s.progress).toList :=
  t.underway.awaited_record s.progress

/-- The operation at a place has gone on. -/
def take (t : Traffic) (place : Nat) : Traffic := { t with underway := t.underway.take place }

def handle (catalog : Catalog) (t : Traffic) : Event → Traffic
  | .begin authenticated request => t.step (Cart.begin ⟨authenticated, catalog⟩ t.cart request)
  | .reply place authenticated reply =>
    match t.underway.awaited[place]? with
    | some a => (t.take place).step (resume ⟨authenticated, catalog⟩ t.cart a.point reply)
    | none => t
  | .applySnapshot p => { t with cart := t.cart.applySnapshot catalog p }
  | .reset => { t with cart := t.cart.reset }

def run (catalog : Catalog) (t : Traffic) (events : List Event) : Traffic :=
  events.foldl (handle catalog) t

theorem run_concat (catalog : Catalog) (t : Traffic) (events : List Event) (e : Event) :
    t.run catalog (events ++ [e]) = (t.run catalog events).handle catalog e :=
  List.foldl_concat ..

end Traffic

end Shopfront.Cart
