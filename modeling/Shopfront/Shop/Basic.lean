import Shopfront.Cart.Operation
import Shopfront.Favourites.Operation
import Shopfront.Orders.Operation
import Shopfront.Session

/-! The shop of one user: the session, the catalog, and the stores of favourites, cart and orders. -/

namespace Shopfront

structure Shop where
  session : Session
  catalog : Catalog
  taxRate : Decimal
  favourites : Favourites
  cart : Cart
  orders : Orders

namespace Shop

/-- A shop whose stores are empty. -/
def ofSession (session : Session) (catalog : Catalog) (taxRate : Decimal) : Shop :=
  ⟨session, catalog, taxRate, .empty, .empty, .empty⟩

def isAuthenticated (s : Shop) : Bool := s.session.isAuthenticated

/-- What the cart's operations see of the shop. -/
def cartContext (s : Shop) : Cart.Context := ⟨s.isAuthenticated, s.catalog⟩

def totals (s : Shop) : Except Decimal.Fault Cart.Totals := Cart.totals s.cart.lines s.taxRate

/-- The cart's lines with their products; a line without a product is not shown. -/
def shownLines (s : Shop) : List (Cart.Line × Product) :=
  s.catalog.pair (fun line => some line.product) s.cart.lines

/-- The cart at a glance. -/
structure Drawer where
  lines : List (Cart.Line × Product)
  totals : Cart.Totals
  isLoading : Bool
  error : Option String

def Drawer.isEmpty (d : Drawer) : Bool := d.lines.isEmpty

def drawer (s : Shop) : Except Decimal.Fault Drawer :=
  s.totals.map fun totals => ⟨s.shownLines, totals, s.cart.isLoading, s.cart.error⟩

/-- The stores' errors that say something. -/
def errors (s : Shop) : List String :=
  [s.favourites.error, s.cart.error, s.orders.error].filterMap fun e => e.filter (· ≠ "")

def useCatalog (s : Shop) (catalog : Catalog) : Shop := { s with catalog }

def logout (s : Shop) : Shop :=
  { s with
    session := s.session.clear
    favourites := s.favourites.reset
    cart := s.cart.reset
    orders := s.orders.reset }

end Shop

end Shopfront
