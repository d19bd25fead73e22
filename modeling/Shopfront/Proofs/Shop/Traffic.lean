import Mathlib.Data.List.Induction
import Shopfront.Proofs.Favourites.Underway
import Shopfront.Shop.Request

/-! Traffic of a shop: the operations of its three stores interleave with one another and with what
the caller does at once, such as logging in or out. An operation that has begun goes on when the
reply to its call lands, or, as a toggle in line, when it has been woken; this happens at any moment
and in any order. Main statements: a landing makes its operation go on or does nothing
(`land_lands`), and what each event keeps a whole run keeps (`run_keeps`). -/

namespace Shopfront.Shop

/-- An operation of one of the stores. -/
inductive Operation where
  | favourites (request : Favourites.Request)
  | cart (request : Cart.Request)
  | refreshOrders

/-- How an operation goes on: a reply lands for the call at a place among those of its store, or the
woken toggle at a place gets its turn. -/
inductive Landing where
  | favourites (place : Nat) (reply : Reply)
  | turn (place : Nat)
  | cart (place : Nat) (reply : Reply)
  | orders (place : Nat) (reply : Reply)

structure Traffic where
  shop : Shop
  favourites : Favourites.Underway
  cart : Underway Cart.Point Cart.Result
  orders : Underway Orders.Point (List Order)

namespace Traffic

/-- What may happen next. -/
inductive Event where
  | act (action : Action)
  | begin (operation : Operation)
  | land (landing : Landing)

/-- A new shop, no operation begun. -/
def start (session : Session) (catalog : Catalog) (taxRate : Decimal) : Traffic :=
  ⟨.ofSession session catalog taxRate, .idle, .idle, .idle⟩

def favouritesStep (t : Traffic) (s : Favourites.Step) : Traffic :=
  { t with
    shop := { t.shop with favourites := s.state }
    favourites := t.favourites.record s }

def cartStep (t : Traffic) (s : Cart.Step) : Traffic :=
  { t with
    shop := { t.shop with cart := s.state }
    cart := t.cart.record s.progress }

def ordersStep (t : Traffic) (s : Orders.Step) : Traffic :=
  { t with
    shop := { t.shop with orders := s.state }
    orders := t.orders.record s.progress }

def begin (t : Traffic) : Operation → Traffic
  | .favourites request =>
    t.favouritesStep (Favourites.begin t.shop.isAuthenticated t.shop.favourites request)
  | .cart request => t.cartStep (Cart.begin t.shop.cartContext t.shop.cart request)
  | .refreshOrders => t.ordersStep (Orders.begin t.shop.isAuthenticated t.shop.orders)

def land (t : Traffic) : Landing → Traffic
  | .favourites place reply =>
    match t.favourites.calls.awaited[place]? with
    | some a =>
      { t with favourites := t.favourites.takeCall place }.favouritesStep
        (Favourites.resume t.shop.isAuthenticated t.shop.favourites a.point reply)
    | none => t
  | .turn place =>
    match t.favourites.woken[place]? with
    | some w =>
      { t with favourites := t.favourites.takeWoken place }.favouritesStep
        (Favourites.wake t.shop.favourites w.turn w.ticket)
    | none => t
  | .cart place reply =>
    match t.cart.awaited[place]? with
    | some a =>
      { t with cart := t.cart.take place }.cartStep
        (Cart.resume t.shop.cartContext t.shop.cart a.point reply)
    | none => t
  | .orders place reply =>
    match t.orders.awaited[place]? with
    | some a =>
      { t with orders := t.orders.take place }.ordersStep
        (Orders.resume t.shop.orders a.point reply)
    | none => t

def handle (t : Traffic) : Event → Traffic
  | .act action => { t with shop := (t.shop.perform action).shop }
  | .begin operation => t.begin operation
  | .land landing => t.land landing

def run (t : Traffic) (events : List Event) : Traffic := events.foldl handle t

theorem run_concat (t : Traffic) (past : List Event) (e : Event) :
    t.run (past ++ [e]) = (t.run past).handle e := List.foldl_concat ..

/-- What each event keeps holds at the end if it holds at the start. -/
theorem run_keeps {P : Traffic → Prop} {t : Traffic} {events : List Event} (h : P t)
    (hstep : ∀ {t}, P t → ∀ e ∈ events, P (t.handle e)) : P (t.run events) := by
  induction events using List.reverseRecOn with
  | nil => exact h
  | append_singleton past e ih =>
    rw [run_concat]
    have hpast := ih fun ht e he => hstep ht e (List.mem_append_left _ he)
    exact hstep hpast e (List.mem_append_right _ (List.mem_singleton_self e))

theorem session_begin (t : Traffic) (operation : Operation) :
    (t.begin operation).shop.session = t.shop.session := by
  cases operation <;> rfl

/-- What a landing makes of the traffic: the operation at its place goes on, or there is none. -/
inductive Lands (t : Traffic) : Landing → Traffic → Prop
  | missed (landing) : Lands t landing t
  | favourites {place a} (reply) : t.favourites.calls.awaited[place]? = some a →
      Lands t (.favourites place reply)
        ({ t with favourites := t.favourites.takeCall place }.favouritesStep
          (Favourites.resume t.shop.isAuthenticated t.shop.favourites a.point reply))
  | turn {place w} : t.favourites.woken[place]? = some w →
      Lands t (.turn place)
        ({ t with favourites := t.favourites.takeWoken place }.favouritesStep
          (Favourites.wake t.shop.favourites w.turn w.ticket))
  | cart {place a} (reply) : t.cart.awaited[place]? = some a →
      Lands t (.cart place reply)
        ({ t with cart := t.cart.take place }.cartStep
          (Cart.resume t.shop.cartContext t.shop.cart a.point reply))
  | orders {place a} (reply) : t.orders.awaited[place]? = some a →
      Lands t (.orders place reply)
        ({ t with orders := t.orders.take place }.ordersStep
          (Orders.resume t.shop.orders a.point reply))

theorem land_lands (t : Traffic) (landing : Landing) : Lands t landing (t.land landing) := by
  cases landing with
  | favourites place reply =>
    simp only [land]
    split
    · next ha => exact .favourites reply ha
    · exact .missed _
  | turn place =>
    simp only [land]
    split
    · next hw => exact .turn hw
    · exact .missed _
  | cart place reply =>
    simp only [land]
    split
    · next ha => exact .cart reply ha
    · exact .missed _
  | orders place reply =>
    simp only [land]
    split
    · next ha => exact .orders reply ha
    · exact .missed _

theorem session_land (t : Traffic) (landing : Landing) :
    (t.land landing).shop.session = t.shop.session := by
  suffices hl : ∀ {t'}, Lands t landing t' → t'.shop.session = t.shop.session from
    hl (t.land_lands landing)
  intro t' hl
  cases hl <;> rfl

end Traffic

end Shopfront.Shop
