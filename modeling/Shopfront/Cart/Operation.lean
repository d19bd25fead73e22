import Shopfront.Backend.Progress
import Shopfront.Cart.Basic

/-! Operations of the cart store. A change is shown at once, sent to the service, and then settled
on the reply or taken back to the confirmed lines. Operations are not queued behind one another; the
last reply wins. -/

namespace Shopfront.Cart

/-- What an operation of the cart sees of the rest of the shop. -/
structure Context where
  authenticated : Bool
  catalog : Catalog

inductive Request where
  | refresh
  | increase (product : Payload)
  | decrease (product : Payload)
  | remove (product : Payload)

inductive Result where
  | lines (lines : List Line)
  | done (success : Bool)
  deriving DecidableEq, Repr

/-- What follows when the cart has been loaded again. -/
inductive Next where
  | nothing
  | decrease (product : Int)
  | remove (product : Int)
  | fail (message : String)
  | succeed
  deriving DecidableEq, Repr

/-- Where an operation waits for a reply. -/
inductive Point where
  /-- The cart was asked for. -/
  | loading (next : Next)
  /-- A change was sent; `folding` says whether further lines of the product are to be deleted. -/
  | sending (product : Int) (updated : Option Line) (folding : Bool)
  /-- A further line was deleted, and `rest` remain. -/
  | folding (product : Int) (updated : Option Line) (rest : List Reference)
  deriving DecidableEq, Repr

abbrev Step := Shopfront.Step Cart Point Result

def loadFailed : String := "Failed to load cart"
def updateFailed : String := "Failed to update cart"

/-- One waiting operation less. -/
def release (c : Cart) : Cart := { c with pending := c.pending - 1 }

/-- Show a change and send it. -/
def send (c : Cart) (product : Int) (updated : Option Line) (call : Call) : Step :=
  .call { c with lines := withLine product updated c.lines, pending := c.pending + 1 } call
    (.sending product updated !(foldedIds product c.folded).isEmpty)

def refused (action : String) (product : Payload) : Entry :=
  .info ("Cart " ++ action ++ " for " ++ product.quoted ++ " refused: not logged in")

/-- Remove the line with a known id, if the user is still logged in. -/
def removeKnown (ctx : Context) (c : Cart) (product : Int) (line : Reference) : Step :=
  if ctx.authenticated then send c product none (.removeCartLine line.payload)
  else (Shopfront.Step.finish c (.done false)).after [refused "remove" (.int product)]

/-- One less of a line with a known id; the last one is a removal. -/
def decreaseKnown (ctx : Context) (c : Cart) (product : Int) (line : Line) (id : Reference) : Step :=
  if line.quantity ≤ 1 then removeKnown ctx c product id
  else
    send c product (some { line with quantity := line.quantity - 1 })
      (.updateCartLine id.payload (line.quantity - 1))

/-- Go on after the cart has been loaded again, or was emptied for want of a credential. -/
def proceed (ctx : Context) (c : Cart) : Next → Step
  | .nothing => .finish c (.lines c.lines)
  | .decrease product =>
    match lineOf? product c.lines with
    | some line =>
      match line.id with
      | some id => decreaseKnown ctx c product line id
      | none => .finish c (.done false)
    | none => .finish c (.done false)
  | .remove product =>
    match (lineOf? product c.lines).bind (·.id) with
    | some id => send c product none (.removeCartLine id.payload)
    | none => .finish c (.done false)
  | .fail message => .finish { release c with error := some message } (.done false)
  | .succeed => .finish c (.done true)

/-- Ask for the cart; without a credential the cart is emptied and nothing is asked. -/
def reload (ctx : Context) (c : Cart) (next : Next) : Step :=
  if ctx.authenticated then .call { c with pending := c.pending + 1 } .getCart (.loading next)
  else proceed ctx c.reset next

/-- The product of a request, if the user is logged in and names one. -/
def gate (ctx : Context) (action : String) (product : Payload) : Journal × Option Int :=
  if ctx.authenticated then
    match product.id? with
    | some id => ([], some id)
    | none =>
      ([.warning ("Cart " ++ action ++ " called with a non-numeric product id: " ++
        product.quoted)], none)
  else ([refused action product], none)

def gated (ctx : Context) (c : Cart) (action : String) (product : Payload) (run : Int → Step) :
    Step :=
  match gate ctx action product with
  | (_, some id) => run id
  | (entries, none) => (Shopfront.Step.finish c (.done false)).after entries

/-- One more of a product. A product without a line, or with a line that has no id yet, is added. -/
def increase (ctx : Context) (c : Cart) (product : Int) : Step :=
  match lineOf? product c.lines with
  | none =>
    (send c product (some ⟨none, product, 1, priceFor ctx.catalog c.lines product none⟩)
      (.addToCart product 1)).after (priceComplaint ctx.catalog c.lines product none)
  | some line =>
    let updated := { line with quantity := line.quantity + 1 }
    match line.id with
    | none => send c product (some updated) (.addToCart product 1)
    | some id => send c product (some updated) (.updateCartLine id.payload updated.quantity)

/-- Remove a product's line; a line without an id is loaded again first. -/
def remove (ctx : Context) (c : Cart) (product : Int) : Step :=
  match lineOf? product c.lines with
  | none => .finish c (.done false)
  | some line =>
    match line.id with
    | some id => send c product none (.removeCartLine id.payload)
    | none => reload ctx c (.remove product)

/-- One less of a product; the last one is a removal, and a line without an id is loaded again
first. -/
def decrease (ctx : Context) (c : Cart) (product : Int) : Step :=
  match lineOf? product c.lines with
  | none => .finish c (.done false)
  | some line =>
    if line.quantity ≤ 1 then remove ctx c product
    else
      match line.id with
      | some id => decreaseKnown ctx c product line id
      | none => reload ctx c (.decrease product)

def begin (ctx : Context) (c : Cart) : Request → Step
  | .refresh => reload ctx c .nothing
  | .increase product => gated ctx c "increase" product (increase ctx c)
  | .decrease product => gated ctx c "decrease" product (decrease ctx c)
  | .remove product => gated ctx c "remove" product (remove ctx c)

/-- The line that a report about the product stands for; none if nothing of it is left. -/
def lineFromReport (ctx : Context) (c : Cart) (r : Report) (shown : Option Line) : Option Line :=
  if r.quantity < 1 then none
  else
    some ⟨r.id.or (shown.bind (·.id)), r.product, r.quantity,
      priceFor ctx.catalog c.lines r.product r.price⟩

def reportComplaint (ctx : Context) (c : Cart) (r : Report) : Journal :=
  if r.quantity < 1 then [] else priceComplaint ctx.catalog c.lines r.product r.price

/-- The shown line with the id of an acknowledgement, where it had none. -/
def acknowledge (reply : Payload) (shown : Option Line) : Option Line :=
  shown.map fun line => { line with id := line.id.or (acknowledgedId? reply) }

/-- The line that a reply other than a snapshot settles a change on. -/
def settledLine (ctx : Context) (c : Cart) (product : Int) (shown : Option Line)
    (reply : Payload) : Option Line :=
  match Report.ofPayload? reply with
  | some r =>
    if r.product = product then lineFromReport ctx c r shown else acknowledge reply shown
  | none => acknowledge reply shown

def settledComplaint (ctx : Context) (c : Cart) (product : Int) (reply : Payload) : Journal :=
  match Report.ofPayload? reply with
  | some r => if r.product = product then reportComplaint ctx c r else []
  | none => []

/-- A confirmed change: the reply replaces the cart or the product's line. A line that is still
without an id makes the cart load again. -/
def settle (ctx : Context) (c : Cart) (product : Int) (shown : Option Line) (reply : Payload) :
    Step :=
  let c := { release c with error := none }
  if isSnapshot reply then
    (Shopfront.Step.finish (applySnapshot ctx.catalog reply c) (.done true)).after
      (snapshotJournal ctx.catalog reply c)
  else
    let line := settledLine ctx c product shown reply
    let settled := { c with
      lines := withLine product line c.lines
      confirmed := withLine product line c.confirmed }
    (if line.isSome && (line.bind (·.id)).isNone then reload ctx settled .succeed
      else .finish settled (.done true)).after (settledComplaint ctx c product reply)

/-- Delete the next further line of the product, or settle when none is left. -/
def foldNext (ctx : Context) (c : Cart) (product : Int) (shown : Option Line) (reply : Payload) :
    List Reference → Step
  | [] => settle ctx { c with folded := c.folded.filter (·.1 != product) } product shown reply
  | id :: rest =>
    (Shopfront.Step.call c (.removeCartLine id.payload) (.folding product shown rest)).after
      [.info ("Folding duplicate cart line " ++ id.plain ++ " into product " ++
        Integer.text product)]

/-- A failed change: back to the confirmed lines. If further lines were to be folded, the first line
may have changed on the service, so the cart is loaded again. -/
def revert (ctx : Context) (c : Cart) (product : Int) (folding : Bool) (f : Failure) : Step :=
  let reverted := { c with lines := c.confirmed }
  let message := f.userMessage updateFailed
  (if folding then reload ctx reverted (.fail message) else proceed ctx reverted (.fail message)).after
    [.error ("Cart update for product " ++ Integer.text product ++ " failed (status=" ++
      f.statusText ++ "): " ++ f.message ++ "; reverting")]

/-- A loaded cart. -/
def loaded (ctx : Context) (c : Cart) (p : Payload) : Cart :=
  release { applySnapshot ctx.catalog p c with error := none }

/-- A fault while loading also ends the change that was to be taken back. -/
def abandonLoading (c : Cart) : Next → Cart
  | .fail _ => release (release c)
  | _ => release c

def resume (ctx : Context) (c : Cart) : Point → Reply → Step
  | .loading next, .value p =>
    let fresh := loaded ctx c p
    (proceed ctx fresh next).after (snapshotJournal ctx.catalog p c ++
      [.info (s!"Loaded cart with {fresh.lines.length} lines")])
  | .loading next, .failure f =>
    (proceed ctx (release { c with error := some (f.userMessage loadFailed) }) next).after
      [.error ("Error fetching cart (status=" ++ f.statusText ++ "): " ++ f.message)]
  | .loading next, .fault fault => .stop (abandonLoading c next) fault
  | .sending product shown folding, .value p =>
    if folding then foldNext ctx c product shown p (foldedIds product c.folded)
    else settle ctx c product shown p
  | .sending product _ folding, .failure f => revert ctx c product folding f
  | .sending .., .fault fault => .stop (release c) fault
  | .folding product shown rest, .value p => foldNext ctx c product shown p rest
  | .folding product _ _, .failure f => revert ctx c product true f
  | .folding .., .fault fault => .stop (release c) fault

end Shopfront.Cart
