import Shopfront.Backend.Call
import Shopfront.Payload.Table

/-! A backend in memory. It keeps favourites, a cart, products and orders, and answers in the shapes
that it is set to. A call other than for products needs a credential. -/

namespace Shopfront

/-- How the favourites are listed. -/
inductive FavouriteShape where
  | objects
  | ids
  | wrapped
  deriving DecidableEq, Repr

inductive ProductShape where
  | list
  | wrapped
  deriving DecidableEq, Repr

/-- What a change of the cart is answered with. -/
inductive CartReply where
  | acknowledgement
  | line
  | snapshot
  deriving DecidableEq, Repr

/-- A line of the cart as the backend keeps it. -/
structure StoredLine where
  id : Nat
  product : Int
  quantity : Int
  deriving DecidableEq, Repr

def StoredLine.payload (l : StoredLine) : Payload :=
  .object [("id", .int l.id), ("sneaker_id", .int l.product), ("quantity", .int l.quantity)]

structure Memory where
  products : List (Int × Fields)
  favourites : List Int
  cart : List StoredLine
  /-- The listing of the orders, as it was given; a call finds out whether it is one. -/
  orders : Payload
  favouriteShape : FavouriteShape
  productShape : ProductShape
  cartReply : CartReply
  /-- The id of the next line. -/
  nextLine : Nat
  /-- Failures in store for coming calls. -/
  failures : List (Endpoint × Failure)

namespace Memory

/-! ## Setting up -/

/-- The products of a listing, under their ids; each has to have an `id` that is an integer. -/
def readProducts : List (Int × Fields) → List Payload → Except Fault (List (Int × Fields))
  | products, [] => .ok products
  | products, p :: ps => do
    let id ← (← p.lookUp "id").toInteger
    readProducts (putBy (·.1) (id, p.fields?.getD []) products) ps

def ofProducts (listing : Payload) (favouriteShape : FavouriteShape) (productShape : ProductShape)
    (cartReply : CartReply) : Except Fault Memory := do
  let products ← readProducts [] (← listing.walk)
  return ⟨products, [], [], .list [], favouriteShape, productShape, cartReply, 1, []⟩

/-- The line that comes next. -/
def newLine (m : Memory) (product quantity : Int) : StoredLine := ⟨m.nextLine, product, quantity⟩

/-- A new line at the end of the cart. -/
def appendLine (m : Memory) (product quantity : Int) : Memory :=
  { m with cart := m.cart ++ [m.newLine product quantity], nextLine := m.nextLine + 1 }

/-- Put a failure in store for an endpoint's next call. -/
def failNext (m : Memory) (endpoint : Endpoint) (status : Option Int) (error : Option String) :
    Memory :=
  let statusText := (status.map Integer.text).getD "None"
  let payload : Payload := match error with
    | some e => if e = "" then .null else .object [("error", .text e)]
    | none => .null
  { m with failures := m.failures ++
      [(endpoint, ⟨endpoint.name ++ " failed with " ++ statusText, status, payload⟩)] }

/-! ## Answering -/

def refusal (message : String) (status : Int) (error : String) : Failure :=
  ⟨message, some status, .object [("error", .text error)]⟩

def unauthenticated : Failure :=
  refusal "User not authenticated" 401 "User not authenticated"

def noSuchLine : Failure := refusal "Cart item not found" 404 "Cart item not found"

def invalidQuantity : Failure := refusal "invalid quantity" 400 "quantity must be >= 1"

def note (message : String) : Payload := .object [("message", .text message)]

def favouriteEntries (favourites : List Int) : List Payload :=
  favourites.mapIdx fun i id =>
    .object [("id", .int (i + 1 : Nat)), ("sneaker_id", .int id)]

def favouritesPayload (m : Memory) : Payload :=
  match m.favouriteShape with
  | .ids => .list (m.favourites.map .int)
  | .objects => .list (favouriteEntries m.favourites)
  | .wrapped => .object [("favourites", .list (favouriteEntries m.favourites))]

def productsPayload (m : Memory) (found : List Fields) : Payload :=
  match m.productShape with
  | .list => .list (found.map .object)
  | .wrapped => .object [("sneakers", .list (found.map .object))]

def cartPayload (m : Memory) : Payload := .object [("items", .list (m.cart.map (·.payload)))]

/-- The answer to a change of the cart. -/
def changeReply (m : Memory) (line : Option StoredLine) (message : String) : Reply :=
  match m.cartReply, line with
  | .snapshot, _ => .value m.cartPayload
  | .line, some l => .value l.payload
  | _, _ => .value (note message)

/-- Put more of a product into the cart: on its first line, or on a new one. -/
def addToCart (m : Memory) (product quantity : Int) : Memory × Reply :=
  let message := "Item added to cart successfully"
  match m.cart.find? (·.product == product) with
  | some l =>
    let line := { l with quantity := l.quantity + quantity }
    let m' := { m with cart := m.cart.map fun x => if x.id = l.id then line else x }
    (m', changeReply m' (some line) message)
  | none =>
    let m' := m.appendLine product quantity
    (m', changeReply m' (some (m.newLine product quantity)) message)

/-- The line that a value names: the one whose id has the same text. -/
def lineNamed? (m : Memory) (name : Payload) : Option StoredLine :=
  m.cart.find? fun l => Integer.text l.id == name.plain

def updateCartLine (m : Memory) (name : Payload) (quantity : Int) : Memory × Reply :=
  if quantity < 1 then (m, .failure invalidQuantity)
  else
    match m.lineNamed? name with
    | none => (m, .failure noSuchLine)
    | some l =>
      let line := { l with quantity }
      let m' := { m with cart := m.cart.map fun x => if x.id = l.id then line else x }
      (m', changeReply m' (some line) "Item quantity updated successfully")

def removeCartLine (m : Memory) (name : Payload) : Memory × Reply :=
  match m.lineNamed? name with
  | none => (m, .failure noSuchLine)
  | some l =>
    let m' := { m with cart := m.cart.filter (·.id != l.id) }
    (m', changeReply m' none "Item removed from cart successfully")

/-- The orders, each as an object. -/
def ordersReply (m : Memory) : Reply :=
  match m.orders.walk.bind (·.mapM Payload.asObject) with
  | .ok rows => .value (.list rows)
  | .error fault => .fault fault

/-- What a call does once it is let in. -/
def act (m : Memory) : Call → Memory × Reply
  | .getFavourites => (m, .value m.favouritesPayload)
  | .addFavourite id =>
    ({ m with favourites :=
        if m.favourites.contains id then m.favourites else m.favourites ++ [id] },
      .value (note "Added to favourites"))
  | .removeFavourite id =>
    ({ m with favourites := m.favourites.erase id }, .value (note "Removed from favourites"))
  | .getProducts => (m, .value (m.productsPayload (m.products.map (·.2))))
  | .getProductsBatch ids => (m, .value (m.productsPayload (ids.filterMap (m.products.lookup ·))))
  | .getCart => (m, .value m.cartPayload)
  | .addToCart product quantity => m.addToCart product quantity
  | .updateCartLine name quantity => m.updateCartLine name quantity
  | .removeCartLine name => m.removeCartLine name
  | .getOrders => (m, m.ordersReply)

/-- One call: refused without a credential, failed if a failure is in store, else done. -/
def serve (m : Memory) (authenticated : Bool) (call : Call) : Memory × Reply :=
  if !authenticated && !call.endpoint.isPublic then (m, .failure unauthenticated)
  else
    match call.endpoint.takeFirst m.failures with
    | (some f, rest) => ({ m with failures := rest }, .failure f)
    | (none, _) => m.act call

/-- Without failures in store every call of a known user is let in. -/
theorem serve_eq_act {m : Memory} (h : m.failures = []) (call : Call) :
    m.serve true call = m.act call := by
  simp [serve, h, Endpoint.takeFirst]

end Memory

end Shopfront
