import Shopfront.Orders.Order
import Shopfront.Catalog

/-! The orders store: the user's orders and the products in them. -/

namespace Shopfront

structure Orders where
  orders : List Order
  products : Catalog
  loading : Bool
  error : Option String
  deriving DecidableEq, Repr

namespace Orders

def empty : Orders := ⟨[], .empty, false, none⟩

def reset (o : Orders) : Orders := { o with orders := [], products := .empty, error := none }

/-- The products of the orders' items, each at its first place. -/
def productIds (orders : List Order) : List Int :=
  (orders.flatMap fun order => order.items.map (·.product)).eraseDups

/-- An item as it is shown: with its product, if that is known, and a title. -/
structure ShownItem where
  item : OrderItem
  title : String
  product : Option Product
  deriving DecidableEq, Repr

structure ShownOrder where
  order : Order
  label : String
  items : List ShownItem
  deriving DecidableEq, Repr

def showItem (products : Catalog) (item : OrderItem) : ShownItem :=
  let product := products.get? item.product
  { item
    title := match product with
      | some p => p.title
      | none => "Item #" ++ Integer.text item.product
    product }

def shown (o : Orders) : List ShownOrder :=
  o.orders.map fun order =>
    { order, label := Order.statusLabel order.status, items := order.items.map (showItem o.products) }

/-- Orders that wait for a payment and say where to pay. -/
def payable (o : Orders) : List Order :=
  o.orders.filter fun order => order.status == "PENDING_PAYMENT" && order.paymentUrl != ""

end Orders

end Shopfront
