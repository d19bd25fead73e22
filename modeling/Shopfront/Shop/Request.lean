import Shopfront.Backend
import Shopfront.Shop.Summary

/-! What can be asked of a shop, and what it answers. Actions are answered at once; other requests
may have to wait for the backend. -/

namespace Shopfront

/-- Requests that need no call of the backend. -/
inductive Action where
  | applyFavourites (payload : Payload)
  | applyDetails (payload : Payload) (ids : Option Payload)
  | resetFavourites
  | isFavourite (product : Payload)
  | favourites
  | applyCart (payload : Payload)
  | resetCart
  | lineFor (product : Payload)
  | totalPrice
  | taxAmount
  | cart
  | shownLines
  | resetOrders
  | shownOrders
  | payableOrders
  | logout
  | errors
  | useCatalog (payload : Payload)
  | drawer
  | login (token : Payload)
  | clearSession
  | headers
  | isAuthenticated
  | summary

inductive Request where
  | act (action : Action)
  | favourites (request : Favourites.Request)
  | cart (request : Cart.Request)
  | refreshOrders
  /-- Load every store again, the orders only if asked to. -/
  | sync (withOrders : Bool)
  | loadCatalog
  /-- Load the catalog and every store, and write the summary. -/
  | syncOnce
  /-- A call of the backend for its own sake. -/
  | call (call : Call)
  | arrange (arrangement : Arrangement)
  /-- How often the named endpoint has been called. -/
  | countCalls (endpoint : String)

/-- The favourites as they stand. -/
structure FavouritesView where
  ids : List Int
  products : List Product
  isLoading : Bool
  error : Option String

/-- The cart as it stands. -/
structure CartView where
  lines : List Cart.Line
  isLoading : Bool
  error : Option String
  totals : Cart.Totals

/-- Why a request got no answer. -/
inductive Trouble where
  | failure (f : Failure)
  | fault (f : Fault)

def Trouble.message : Trouble → String
  | failure f => f.message
  | fault f => f.message

inductive Answer where
  | nothing
  | flag (b : Bool)
  | code (n : Nat)
  | count (n : Nat)
  | amount (d : Decimal)
  | texts (ss : List String)
  | headers (hs : List (String × String))
  | payload (p : Payload)
  | ids (ids : List Int)
  | products (ps : List Product)
  | outcome (o : Favourites.Outcome)
  | line (l : Option Cart.Line)
  | lines (ls : List Cart.Line)
  | shownLines (ls : List (Cart.Line × Product))
  | orders (os : List Order)
  | shownOrders (os : List Orders.ShownOrder)
  | favourites (view : FavouritesView)
  | cart (view : CartView)
  | drawer (d : Shop.Drawer)
  /-- The endings of several requests, in their order. -/
  | all (endings : List (Except Trouble Answer))

abbrev Ending := Except Trouble Answer

namespace Shop

/-- The result of an action. -/
structure Done where
  shop : Shop
  journal : Journal
  ending : Ending

namespace Done

def answer (s : Shop) (a : Answer) : Done := ⟨s, [], .ok a⟩

def fault (s : Shop) (f : Fault) : Done := ⟨s, [], .error (.fault f)⟩

def after (entries : Journal) (d : Done) : Done := { d with journal := entries ++ d.journal }

end Done

/-- An answer worked out from the cart's totals. -/
def withTotals (s : Shop) (answer : Cart.Totals → Answer) : Done :=
  match s.totals with
  | .ok totals => .answer s (answer totals)
  | .error cause => .fault s (.arithmetic cause)

/-- Product details for the ids given, or for the favourites. -/
def applyDetails (s : Shop) (payload : Payload) (ids : Option Payload) : Done :=
  match ids with
  | none | some .null =>
    let f := s.favourites.applyDetails (s.favourites.ids.map some) payload
    (Done.answer { s with favourites := f } (.products f.products)).after
      (Product.complaints payload)
  | some ids =>
    match ids.elements? with
    | some entries =>
      let f := s.favourites.applyDetails (entries.map Payload.id?) payload
      (Done.answer { s with favourites := f } (.products f.products)).after
        (Product.complaints payload)
    | none => (Done.fault s (.notIterable ids.kind)).after (Product.complaints payload)

def perform (s : Shop) : Action → Done
  | .applyFavourites p =>
    let f := s.favourites.applyIds p
    (Done.answer { s with favourites := f } (.ids f.ids)).after (Favourites.complaints p)
  | .applyDetails p ids => applyDetails s p ids
  | .resetFavourites => .answer { s with favourites := s.favourites.reset } .nothing
  | .isFavourite p => .answer s (.flag (s.favourites.contains p))
  | .favourites =>
    let f := s.favourites
    .answer s (.favourites ⟨f.ids, f.products, f.isLoading, f.error⟩)
  | .applyCart p =>
    let c := s.cart.applySnapshot s.catalog p
    (Done.answer { s with cart := c } (.lines c.lines)).after (s.cart.snapshotJournal s.catalog p)
  | .resetCart => .answer { s with cart := s.cart.reset } .nothing
  | .lineFor p => .answer s (.line (s.cart.find? p))
  | .totalPrice => withTotals s fun t => .amount t.subtotal
  | .taxAmount => withTotals s fun t => .amount t.tax
  | .cart => withTotals s fun t => .cart ⟨s.cart.lines, s.cart.isLoading, s.cart.error, t⟩
  | .shownLines => .answer s (.shownLines s.shownLines)
  | .resetOrders => .answer { s with orders := s.orders.reset } .nothing
  | .shownOrders => .answer s (.shownOrders s.orders.shown)
  | .payableOrders => .answer s (.orders s.orders.payable)
  | .logout => (Done.answer s.logout .nothing).after [.info "Session cleared; stores reset"]
  | .errors => .answer s (.texts s.errors)
  | .useCatalog p =>
    (Done.answer (s.useCatalog (Catalog.ofPayload p)) .nothing).after (Product.complaints p)
  | .drawer =>
    match s.drawer with
    | .ok d => .answer s (.drawer d)
    | .error cause => .fault s (.arithmetic cause)
  | .login token =>
    match Session.ofPayload token with
    | .ok session => .answer { s with session } .nothing
    | .error fault => .fault s fault
  | .clearSession => .answer { s with session := s.session.clear } .nothing
  | .headers => .answer s (.headers s.session.headers)
  | .isAuthenticated => .answer s (.flag s.isAuthenticated)
  | .summary =>
    match s.summary with
    | (entries, .ok ()) => (Done.answer s .nothing).after entries
    | (entries, .error fault) => (Done.fault s fault).after entries

end Shop

end Shopfront
