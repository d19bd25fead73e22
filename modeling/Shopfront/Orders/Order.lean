import Shopfront.Product
import Shopfront.Payload.Table
import Shopfront.Text.Uppercase

/-! Orders, as read from the orders service. -/

namespace Shopfront

structure OrderItem where
  product : Int
  quantity : Int
  price : Decimal
  deriving DecidableEq, Repr

structure Order where
  id : Reference
  status : String
  items : List OrderItem
  total : Decimal
  createdAt : Option Int
  paymentUrl : String
  deriving DecidableEq, Repr

namespace OrderItem

/-- A quantity that is missing or zero counts as one. -/
def quantityOf (p : Payload) : Int :=
  match p.id? with
  | none => 1
  | some n => if n = 0 then 1 else n

/-- The price at the time of the purchase, or else the plain price. -/
def priceIn (fields : Fields) : Decimal :=
  let paid := fields.get "price_at_purchase"
  (if paid.isVacant then fields.get "price" else paid).priceOrZero

def ofPayload? (entry : Payload) : Option OrderItem := do
  let fields ← entry.fields?
  let product ← (Fields.firstPresent fields productKeys).id?
  return { product, quantity := quantityOf (Fields.get fields "quantity"), price := priceIn fields }

/-- The items of an order: none if the field is vacant, a fault if it cannot be walked. -/
def listOf (p : Payload) : Except Fault (List OrderItem) :=
  if p.isVacant then .ok []
  else
    match p.elements? with
    | some entries => .ok (entries.filterMap ofPayload?)
    | none => .error (.notIterable p.kind)

end OrderItem

namespace Order

/-- The order in an entry, nothing if the entry has no id. -/
def ofPayload? (entry : Payload) : Except Fault (Option Order) :=
  match entry.fields? with
  | none => .ok none
  | some fields =>
    match Reference.ofPayload? (Fields.get fields "id") with
    | none => .ok none
    | some id => do
      let items ← OrderItem.listOf (Fields.get fields "items")
      return some
        { id
          status := Text.upper (Product.firstText [Fields.get fields "status"])
          items
          total := (Fields.get fields "total_amount").priceOrZero
          createdAt := (Fields.get fields "created_at").id?
          paymentUrl := Product.firstText [Fields.get fields "payment_url"] }

def skipped (entry : Payload) : Entry :=
  .warning ("Skipping malformed order entry: " ++ entry.quoted)

/-- The orders of the entries up to the first fault, with the complaints on the way. -/
def readEntries : List Payload → Journal × Except Fault (List Order)
  | [] => ([], .ok [])
  | entry :: entries =>
    match ofPayload? entry with
    | .error fault => ([], .error fault)
    | .ok none => (skipped entry :: (readEntries entries).1, (readEntries entries).2)
    | .ok (some order) => ((readEntries entries).1, (readEntries entries).2.map (order :: ·))

/-- The orders in a payload. -/
def listOf (p : Payload) : Except Fault (List Order) := (readEntries (Envelope.orders.entries p)).2

def complaints (p : Payload) : Journal :=
  Envelope.orders.complaint p ++ (readEntries (Envelope.orders.entries p)).1

/-- The label of a status; a status without one is its own label. -/
def statusLabel : String → String
  | "PENDING_PAYMENT" => "Awaiting payment"
  | "PAID" => "Paid"
  | "PAYMENT_FAILED" => "Payment failed"
  | "CANCELLED" => "Cancelled"
  | status => status

/-- The label of a status that may be no text: it is then its own label, unless it cannot be looked
up. -/
def labelOf : Payload → Except Fault Payload
  | .text s => .ok (.text (statusLabel s))
  | p =>
    match p.key with
    | .ok _ => .ok p
    | .error kind => .error (.unhashable kind)

end Order

end Shopfront
