import Shopfront.Favourites.Turn
import Shopfront.Product

/-! The favourites store: the ids of the favourite products and the products themselves. The ids are
only ever what the service last said; a toggle does not edit them. -/

namespace Shopfront

structure Favourites where
  ids : List Int
  products : List Product
  /-- How many operations wait for the favourites service. -/
  idsPending : Nat
  /-- How many operations wait for product details. -/
  detailsPending : Nat
  error : Option String
  queues : Favourites.Queues
  era : Nat
  /-- The next ticket for a toggle that has to wait. -/
  tickets : Nat
  deriving DecidableEq, Repr

namespace Favourites

def empty : Favourites := ⟨[], [], 0, 0, none, [], 0, 0⟩

def idsLoading (f : Favourites) : Bool := 0 < f.idsPending
def detailsLoading (f : Favourites) : Bool := 0 < f.detailsPending
def isLoading (f : Favourites) : Bool := f.idsLoading || f.detailsLoading

def contains (f : Favourites) (p : Payload) : Bool :=
  match p.id? with
  | some id => f.ids.contains id
  | none => false

/-- The id in an entry: the entry itself, or a field of it. -/
def entryId? : Payload → Option Int
  | .object fields => (Fields.firstPresent fields (productKeys ++ ["id"])).id?
  | p => p.id?

/-- The ids in a payload, each at its first place. -/
def idsOf (p : Payload) : List Int :=
  ((Envelope.favourites.entries p).filterMap entryId?).eraseDups

def complaints (p : Payload) : Journal :=
  Envelope.favourites.complaint p ++ (Envelope.favourites.entries p).filterMap fun entry =>
    match entryId? entry with
    | some _ => none
    | none => some (.warning ("Skipping favourite entry without a usable id: " ++ entry.quoted))

def applyIds (p : Payload) (f : Favourites) : Favourites := { f with ids := idsOf p }

/-- The products of a payload, in the order of the wanted ids. -/
def applyDetails (wanted : List (Option Int)) (p : Payload) (f : Favourites) : Favourites :=
  { f with products := Product.joinIds wanted (Product.listOf p) }

/-- Nobody's favourites. -/
def clear (f : Favourites) : Favourites := { f with ids := [], products := [] }

def reset (f : Favourites) : Favourites :=
  { f with ids := [], products := [], error := none, era := f.era + 1 }

end Favourites

end Shopfront
