import Shopfront.Payload.Envelope
import Shopfront.Payload.Identifier
import Shopfront.Payload.Price

/-! Products, as the shop shows them. -/

namespace Shopfront

/-- Keys under which a line or an item names its product, in order of preference. -/
def productKeys : List String := ["sneaker_id", "sneakerId", "product_id", "productId"]

structure Product where
  id : Int
  title : String
  price : Decimal
  imageKey : Option String
  description : String
  deriving DecidableEq, Repr

namespace Product

def imageKeys : List String := ["image_key", "imageKey", "image"]

/-- The text of the first value that is not vacant. -/
def firstText : List Payload → String
  | [] => ""
  | p :: ps => if p.isVacant then firstText ps else p.plain

/-- A product's own `id` wins over the other keys. -/
def idIn? (fields : Fields) : Option Int :=
  ((fields.get "id").id?).or (fields.firstPresent (productKeys ++ ["id"])).id?

def ofFields? (fields : Fields) : Option Product :=
  (idIn? fields).map fun id =>
    let image := fields.firstPresent imageKeys
    { id
      title := Text.trim (firstText [fields.get "title", fields.get "name"])
      price := ((fields.get "price").price?).getD .zero
      imageKey := if image.isVacant then none else some image.plain
      description := firstText [fields.get "description"] }

def ofPayload? (entry : Payload) : Option Product := entry.fields?.bind ofFields?

/-- The products in a payload; entries without an id are left out. -/
def listOf (p : Payload) : List Product := (Envelope.products.entries p).filterMap ofPayload?

/-- What the journal says about a payload of products. -/
def complaints (p : Payload) : Journal :=
  Envelope.products.complaint p ++ (Envelope.products.entries p).filterMap fun entry =>
    match ofPayload? entry with
    | some _ => none
    | none => some (.warning ("Skipping malformed product entry: " ++ entry.quoted))

/-- The last product with the id. -/
def lastWith? (id : Int) (products : List Product) : Option Product :=
  products.reverse.find? (·.id == id)

/-- The products of the ids, in the order of the ids; an id without a product is passed over. -/
def joinIds (ids : List (Option Int)) (products : List Product) : List Product :=
  ids.filterMap fun id? => id?.bind (lastWith? · products)

/-- The address used where a product has no image. -/
def placeholderImage : String := "/img/placeholder.svg"

def defaultImageBase : String := "http://localhost:9000/sneakers"

def imageUrl (base : String) : Option Product → String
  | some { imageKey := some key, .. } =>
    if key = "" then placeholderImage
    else base ++ "/" ++ String.ofList (key.toList.dropWhile (· = '/'))
  | _ => placeholderImage

end Product

end Shopfront
