import Shopfront.Backend.Progress
import Shopfront.Orders.Basic

/-! Loading the orders: the orders first, then the products in them. -/

namespace Shopfront.Orders

/-- Where a refresh waits for a reply. -/
inductive Point where
  | loadingOrders
  | loadingProducts (orders : List Order)
  deriving DecidableEq, Repr

abbrev Step := Shopfront.Step Orders Point (List Order)

def loadFailed : String := "Failed to load orders"

/-- Orders and their products take the place of the old ones together. -/
def apply (o : Orders) (orders : List Order) (products : Catalog) : Step :=
  (Shopfront.Step.finish { o with orders, products, error := none, loading := false } orders).after
    [.info (s!"Loaded {orders.length} orders ({products.size} products)")]

def begin (authenticated : Bool) (o : Orders) : Step :=
  if authenticated then .call { o with loading := true } .getOrders .loadingOrders
  else .finish o.reset []

/-- Ask for the products of the orders; for none there is nothing to ask. -/
def loadProducts (o : Orders) (orders : List Order) : Step :=
  if (productIds orders).isEmpty then apply o orders .empty
  else .call o (.getProductsBatch (productIds orders)) (.loadingProducts orders)

def resume (o : Orders) : Point → Reply → Step
  | .loadingOrders, .value p =>
    (match Order.listOf p with
      | .ok orders => loadProducts o orders
      | .error fault => .stop { o with loading := false } fault).after (Order.complaints p)
  | .loadingProducts orders, .value p =>
    (apply o orders (Catalog.ofPayload p)).after (Product.complaints p)
  | _, .failure f =>
    (Shopfront.Step.finish { o with error := some (f.userMessage loadFailed), loading := false }
      o.orders).after
      [.error ("Error fetching orders (status=" ++ f.statusText ++ "): " ++ f.message)]
  | _, .fault fault => .stop { o with loading := false } fault

end Shopfront.Orders
