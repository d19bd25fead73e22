import Shopfront.Fault
import Shopfront.Payload.Identifier

/-! The backend as the stores call it, and what may come back. -/

namespace Shopfront

/-- What the backend can be asked for. -/
inductive Endpoint where
  | getFavourites
  | addFavourite
  | removeFavourite
  | getProducts
  | getProductsBatch
  | getCart
  | addToCart
  | updateCartLine
  | removeCartLine
  | getOrders
  deriving DecidableEq, Repr

namespace Endpoint

def name : Endpoint → String
  | getFavourites => "get_favourites"
  | addFavourite => "add_favourite"
  | removeFavourite => "remove_favourite"
  | getProducts => "get_products"
  | getProductsBatch => "get_products_batch"
  | getCart => "get_cart"
  | addToCart => "add_to_cart"
  | updateCartLine => "update_cart_line"
  | removeCartLine => "remove_cart_line"
  | getOrders => "get_orders"

def all : List Endpoint :=
  [getFavourites, addFavourite, removeFavourite, getProducts, getProductsBatch, getCart, addToCart,
    updateCartLine, removeCartLine, getOrders]

def ofName? (name : String) : Option Endpoint := all.find? (·.name == name)

theorem ofName?_name (e : Endpoint) : ofName? e.name = some e := by cases e <;> rfl

/-- Whether anyone may call it; all others need a credential. -/
def isPublic : Endpoint → Bool
  | getProducts => true
  | getProductsBatch => true
  | _ => false

/-- The first of the things in store for the endpoint, and all that remain. -/
def takeFirst {α : Type} (e : Endpoint) : List (Endpoint × α) → Option α × List (Endpoint × α)
  | [] => (none, [])
  | (e', x) :: rest =>
    if e' = e then (some x, rest)
    else ((takeFirst e rest).1, (e', x) :: (takeFirst e rest).2)

end Endpoint

/-- One call of the backend. A line of the cart is named by a value of any kind; its text counts. -/
inductive Call where
  | getFavourites
  | addFavourite (product : Int)
  | removeFavourite (product : Int)
  | getProducts
  | getProductsBatch (ids : List Int)
  | getCart
  | addToCart (product quantity : Int)
  | updateCartLine (line : Payload) (quantity : Int)
  | removeCartLine (line : Payload)
  | getOrders

def Call.endpoint : Call → Endpoint
  | getFavourites => .getFavourites
  | addFavourite _ => .addFavourite
  | removeFavourite _ => .removeFavourite
  | getProducts => .getProducts
  | getProductsBatch _ => .getProductsBatch
  | getCart => .getCart
  | addToCart .. => .addToCart
  | updateCartLine .. => .updateCartLine
  | removeCartLine _ => .removeCartLine
  | getOrders => .getOrders

/-- A call that failed: the transport did not get through, or the backend refused. The status is
absent if there was no response at all. -/
structure Failure where
  message : String
  status : Option Int
  payload : Payload

namespace Failure

def genericMessage : String := "Something went wrong, please try again"

/-- The backend's own words: its `error`, or else its `message`, if that is a text. -/
def backendMessage? (f : Failure) : Option String :=
  match f.payload with
  | .object fields =>
    let value := if (Fields.get fields "error").isVacant then Fields.get fields "message"
      else Fields.get fields "error"
    match value with
    | .text s => if Text.trim s = "" then none else some (Text.trim s)
    | _ => none
  | _ => none

/-- What the user is told. -/
def userMessage (f : Failure) (fallback : String) : String := f.backendMessage?.getD fallback

def statusText (f : Failure) : String :=
  match f.status with
  | some n => Integer.text n
  | none => "None"

end Failure

/-- What comes back from a call. A fault is neither an answer nor a failure that stores expect. -/
inductive Reply where
  | value (payload : Payload)
  | failure (failure : Failure)
  | fault (fault : Fault)

end Shopfront
