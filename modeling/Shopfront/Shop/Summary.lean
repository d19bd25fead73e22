import Shopfront.Decimal.Money
import Shopfront.Shop.Basic

/-! The summary that the journal gets after a round of loading. -/

namespace Shopfront.Shop

def favouritesLine (f : Favourites) : Entry :=
  .info (s!"Favourites: {f.ids.length} ids, {f.products.length} renderable: " ++
    Payload.quotedTexts (f.products.map fun p => Integer.text p.id ++ ":" ++ p.title))

def cartLine (line : Cart.Line) (product : Product) : Except Fault Entry :=
  line.price.money.map fun price =>
    .info ("Cart: " ++ product.title ++ " x" ++ Integer.text line.quantity ++ " @ " ++ price)

def totalsLine (t : Cart.Totals) : Except Fault Entry := do
  let subtotal ← t.subtotal.money
  let tax ← t.tax.money
  return .info ("Cart total " ++ subtotal ++ ", tax " ++ tax)

def orderLine (o : Orders.ShownOrder) : Except Fault Entry :=
  o.order.total.money.map fun total =>
    .info ("Order #" ++ o.order.id.plain ++ " [" ++ o.label ++ "]: " ++
      ", ".intercalate (o.items.map fun i => i.title ++ " x" ++ Integer.text i.item.quantity) ++
      ", total " ++ total)

def emptyLine (d : Drawer) : Journal := if d.isEmpty then [.info "Cart is empty"] else []

def errorLine (message : String) : Entry := .warning ("Store error: " ++ message)

/-- What the summary says of a drawer and of what follows it. -/
def linesFrom (s : Shop) (d : Drawer) : List (Except Fault Entry) :=
  (emptyLine d).map .ok ++ d.lines.map (fun (line, product) => cartLine line product) ++
    [totalsLine d.totals] ++ s.orders.shown.map orderLine ++ s.errors.map fun e => .ok (errorLine e)

/-- The entries up to the first that cannot be written. -/
def written : List (Except Fault Entry) → Journal × Except Fault Unit
  | [] => ([], .ok ())
  | .ok entry :: rest => (entry :: (written rest).1, (written rest).2)
  | .error fault :: _ => ([], .error fault)

/-- The summary. If the cart's totals cannot be worked out it ends with the favourites, and if an
amount cannot be written it ends in front of its line. -/
def summary (s : Shop) : Journal × Except Fault Unit :=
  match s.drawer with
  | .error fault => ([favouritesLine s.favourites], .error (.arithmetic fault))
  | .ok drawer => written (.ok (favouritesLine s.favourites) :: s.linesFrom drawer)

/-- The exit code of a round of loading. -/
def exitCode (s : Shop) : Nat := if s.errors.isEmpty then 0 else 1

end Shopfront.Shop
