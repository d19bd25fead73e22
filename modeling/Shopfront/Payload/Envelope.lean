import Shopfront.Payload.Text
import Shopfront.Journal

/-! Envelopes. A collection comes as a bare list or inside an object under one of a few keys, the
first matching key first; an empty payload is an empty collection. -/

namespace Shopfront

structure Envelope where
  /-- What the collection holds, as the journal names it. -/
  noun : String
  keys : List String

namespace Envelope

def favourites : Envelope := ⟨"favourites", ["favourites", "favorites", "items", "data"]⟩
def products : Envelope := ⟨"products", ["sneakers", "products", "items", "data"]⟩
def cart : Envelope := ⟨"cart", ["items", "cart", "data"]⟩
def orders : Envelope := ⟨"orders", ["orders", "items", "data"]⟩

/-- The list under the first key that holds a list, or holds null. -/
def search (fields : Fields) : List String → Option (List Payload)
  | [] => none
  | key :: keys =>
    match List.lookup key fields with
    | some (.list items) => some items
    | some (.tuple items) => some items
    | some .null => some []
    | _ => search fields keys

/-- The entries of the collection, if the payload has a known shape. -/
def entries? (e : Envelope) : Payload → Option (List Payload)
  | .null => some []
  | .text "" => some []
  | .object [] => some []
  | .list items => some items
  | .tuple items => some items
  | .object fields => search fields e.keys
  | _ => none

/-- The entries, none where the shape is not known. -/
def entries (e : Envelope) (p : Payload) : List Payload := (e.entries? p).getD []

/-- The complaint about an unknown shape. -/
def complaint (e : Envelope) (p : Payload) : Journal :=
  match e.entries? p with
  | some _ => []
  | none =>
    [.warning (s!"Unrecognized {e.noun} payload shape (" ++ p.kind.name ++ "): " ++ p.quoted)]

end Envelope

end Shopfront
