import Shopfront.Product

/-! The catalog: products by id. An id that comes again keeps its first place and gets its last
product. -/

namespace Shopfront

structure Catalog where
  products : List Product
  deriving DecidableEq, Repr

namespace Catalog

def empty : Catalog := ⟨[]⟩

def insert (c : Catalog) (product : Product) : Catalog := ⟨putBy (·.id) product c.products⟩

def ofProducts (products : List Product) : Catalog := products.foldl insert empty

def ofPayload (p : Payload) : Catalog := ofProducts (Product.listOf p)

def size (c : Catalog) : Nat := c.products.length

def get? (c : Catalog) (id : Int) : Option Product := c.products.find? (·.id == id)

/-- The product of the id that a payload stands for. -/
def find? (c : Catalog) (p : Payload) : Option Product := p.id?.bind c.get?

def contains (c : Catalog) (p : Payload) : Bool :=
  match p.id? with
  | some id => c.products.any (·.id == id)
  | none => false

def priceOf? (c : Catalog) (p : Payload) : Option Decimal := (c.find? p).map (·.price)

/-- Each item with its product; an item without one is left out. -/
def pair {α : Type} (c : Catalog) (productOf : α → Option Int) (items : List α) :
    List (α × Product) :=
  items.filterMap fun item => ((productOf item).bind c.get?).map fun product => (item, product)

theorem get?_isSome_iff (c : Catalog) (id : Int) :
    (c.get? id).isSome = c.products.any (·.id == id) := by
  rw [Bool.eq_iff_iff, get?, List.find?_isSome, List.any_eq_true]

end Catalog

end Shopfront
