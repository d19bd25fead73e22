import Shopfront.Cart.Totals
import Shopfront.Catalog

/-! The cart store: visible lines, the lines last confirmed by the service, and the transitions
between them that need no call. -/

namespace Shopfront

structure Cart where
  lines : List Cart.Line
  /-- The lines as the service last confirmed them. -/
  confirmed : List Cart.Line
  /-- Further lines of the service for a product, folded into its one visible line. -/
  folded : List (Int × Reference)
  /-- How many operations wait for the service. -/
  pending : Nat
  error : Option String
  deriving DecidableEq, Repr

namespace Cart

def empty : Cart := ⟨[], [], [], 0, none⟩

def isLoading (c : Cart) : Bool := 0 < c.pending

def lineOf? (product : Int) (lines : List Line) : Option Line :=
  lines.find? (·.product == product)

/-- The visible line of the product that a payload stands for. -/
def find? (c : Cart) (p : Payload) : Option Line := p.id?.bind (lineOf? · c.lines)

/-- The line put in the place of the product's first line, or at the end; the product's other
lines go. -/
def putLine (product : Int) (line : Line) : List Line → List Line
  | [] => [line]
  | l :: ls =>
    if l.product = product then line :: ls.filter (·.product != product)
    else l :: putLine product line ls

/-- The product's line replaced, added, or, for `none`, dropped. -/
def withLine (product : Int) (line : Option Line) (lines : List Line) : List Line :=
  match line with
  | none => lines.filter (·.product != product)
  | some l => putLine product l lines

def foldedIds (product : Int) (folded : List (Int × Reference)) : List Reference :=
  (folded.filter (·.1 == product)).map (·.2)

/-- A price from what the shop already knows: the visible line, else the catalog. -/
def knownPrice? (catalog : Catalog) (visible : List Line) (product : Int) : Option Decimal :=
  ((lineOf? product visible).map (·.price)).or ((catalog.get? product).map (·.price))

/-- The reported price, else the known one, else zero. -/
def priceFor (catalog : Catalog) (visible : List Line) (product : Int)
    (reported : Option Decimal) : Decimal :=
  (reported.or (knownPrice? catalog visible product)).getD .zero

def priceComplaint (catalog : Catalog) (visible : List Line) (product : Int)
    (reported : Option Decimal) : Journal :=
  if (reported.or (knownPrice? catalog visible product)).isSome then []
  else [.warning ("No catalog price for product " ++ Integer.text product ++
    "; pricing the line at 0")]

/-- The lines collected so far from a snapshot, one a product. -/
structure Merge where
  lines : List Line
  folded : List (Int × Reference)
  journal : Journal

/-- A further report for a product adds to its quantity, and its id is noted as folded. -/
def Merge.fold (m : Merge) (r : Report) : Merge where
  lines := m.lines.map fun l =>
    if l.product = r.product then { l with quantity := l.quantity + r.quantity } else l
  folded := match r.id with
    | some id => m.folded ++ [(r.product, id)]
    | none => m.folded
  journal := m.journal ++ [.warning ("Cart payload has more than one line for product " ++
    Integer.text r.product ++ "; merging")]

/-- The first report for a product becomes its line. -/
def Merge.append (catalog : Catalog) (visible : List Line) (m : Merge) (r : Report) : Merge where
  lines := m.lines ++ [⟨r.id, r.product, r.quantity, priceFor catalog visible r.product r.price⟩]
  folded := m.folded
  journal := m.journal ++ priceComplaint catalog visible r.product r.price

def Merge.add (catalog : Catalog) (visible : List Line) (m : Merge) (r : Report) : Merge :=
  if r.quantity < 1 then m
  else if m.lines.any (·.product == r.product) then m.fold r
  else m.append catalog visible r

def merge (catalog : Catalog) (visible : List Line) (reports : List Report) : Merge :=
  reports.foldl (Merge.add catalog visible) ⟨[], [], []⟩

/-- Every line replaced by a payload of the whole cart. -/
def applySnapshot (catalog : Catalog) (p : Payload) (c : Cart) : Cart :=
  let m := merge catalog c.lines (Report.listOf p)
  { c with lines := m.lines, confirmed := m.lines, folded := m.folded }

def snapshotJournal (catalog : Catalog) (p : Payload) (c : Cart) : Journal :=
  Report.complaints p ++ (merge catalog c.lines (Report.listOf p)).journal

def reset (c : Cart) : Cart := { c with lines := [], confirmed := [], folded := [], error := none }

end Cart

end Shopfront
