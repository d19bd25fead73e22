import Shopfront.Product

/-! Cart lines, and the looser lines that the cart service reports. -/

namespace Shopfront.Cart

/-- One row of the cart. A line has no id while the service has not confirmed it with one. -/
structure Line where
  id : Option Reference
  product : Int
  quantity : Int
  price : Decimal
  deriving DecidableEq, Repr

/-- A line as reported; the price is absent if the service did not send a usable one. -/
structure Report where
  id : Option Reference
  product : Int
  quantity : Int
  price : Option Decimal
  deriving DecidableEq, Repr

def lineKeys : List String := ["id", "line_id", "lineId", "item_id", "itemId"]
def priceKeys : List String := ["price_at_add", "priceAtAdd", "price"]

namespace Report

def ofFields? (fields : Fields) : Option Report :=
  (fields.firstPresent productKeys).id?.map fun product =>
    { id := Reference.ofPayload? (fields.firstPresent lineKeys)
      product
      quantity := ((fields.get "quantity").id?).getD 1
      price := (fields.firstPresent priceKeys).price? }

def ofPayload? (entry : Payload) : Option Report := entry.fields?.bind ofFields?

/-- The lines in a payload; entries that name no product are left out. -/
def listOf (p : Payload) : List Report := (Envelope.cart.entries p).filterMap ofPayload?

def complaints (p : Payload) : Journal :=
  Envelope.cart.complaint p ++ (Envelope.cart.entries p).filterMap fun entry =>
    match ofPayload? entry with
    | some _ => none
    | none => some (.warning ("Skipping malformed cart entry: " ++ entry.quoted))

end Report

def holdsList (fields : Fields) (key : String) : Bool :=
  match List.lookup key fields with
  | some (.list _) => true
  | _ => false

/-- Whether a reply carries the whole cart and not a single line. -/
def isSnapshot : Payload → Bool
  | .list _ => true
  | .object fields => Envelope.cart.keys.any (holdsList fields)
  | _ => false

/-- The line id in a bare acknowledgement: under the first key that holds more than null or an
empty text. -/
def acknowledgedId? : Payload → Option Reference
  | .object fields =>
    lineKeys.findSome? fun key => Reference.ofPayload? (Fields.get fields key)
  | _ => none

end Shopfront.Cart
