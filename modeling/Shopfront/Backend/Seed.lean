import Shopfront.Backend.Memory
import Shopfront.Journal
import Shopfront.Payload.Json

/-! A backend in memory made from a JSON text with products, favourites, cart lines and orders. -/

namespace Shopfront.Memory

/-- The value under a key, or an empty list if there is no such key. -/
def section? (fields : Fields) (key : String) : Payload :=
  (List.lookup key fields).getD (.list [])

def seedFavourites (listing : Payload) : Except Fault (List Int) := do
  (← listing.walk).mapM Payload.toInteger

/-- A line's product and quantity; a quantity that is not sent is one. -/
def seedLine (entry : Payload) : Except Fault (Int × Int) := do
  let product ← (← entry.lookUp "sneaker_id").toInteger
  let quantity ← ((List.lookup "quantity" (entry.fields?.getD [])).getD (.int 1)).toInteger
  return (product, quantity)

def ofFields (fields : Fields) : Except Fault Memory := do
  let memory ← ofProducts (section? fields "products") .objects .list .acknowledgement
  let favourites ← seedFavourites (section? fields "favourites")
  let lines ← (← (section? fields "cart").walk).mapM seedLine
  let orders ← (section? fields "orders").walk
  let filled := lines.foldl (fun m (product, quantity) => m.appendLine product quantity) memory
  return { filled with favourites, orders := .list orders }

/-- A backend from the text of a file. -/
def ofText (path text : String) : Except Fault Memory :=
  match Json.read text with
  | .error refusal => .error refusal.fault
  | .ok (.object fields) => ofFields fields
  | .ok _ => .error (.notAnObject path)

def seeded (m : Memory) : Entry :=
  .info (s!"Mock backend seeded with {m.products.length} products, " ++
    s!"{m.favourites.length} favourites, {m.cart.length} cart lines")

end Shopfront.Memory
