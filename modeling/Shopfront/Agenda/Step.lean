import Shopfront.Agenda.Basic

/-! One event of the agenda: a task goes on as far as it can, or a group hears of a member. -/

namespace Shopfront.Agenda

/-! ## Steps of the stores -/

def favouritesAnswer : Favourites.Result → Answer
  | .ids ids => .ids ids
  | .products ps => .products ps
  | .outcome o => .outcome o

def cartAnswer : Cart.Result → Answer
  | .lines ls => .lines ls
  | .done b => .flag b

def favouritesStep (a : Agenda) (t : Task) (s : Favourites.Step) : Agenda :=
  let a := ({ a with shop := { a.shop with favourites := s.state } }.write s.journal).wake s.woken
  match s.progress with
  | .calling call point => a.issue t call (.favourites point)
  | .queued turn ticket => a.setStatus t (.queued turn ticket)
  | .finished result => a.finish t (.ok (favouritesAnswer result))
  | .stopped fault => a.finish t (.error (.fault fault))

def cartStep (a : Agenda) (t : Task) (s : Cart.Step) : Agenda :=
  let a := { a with shop := { a.shop with cart := s.state } }.write s.journal
  match s.progress with
  | .calling call point => a.issue t call (.cart point)
  | .finished result => a.finish t (.ok (cartAnswer result))
  | .stopped fault => a.finish t (.error (.fault fault))

def ordersStep (a : Agenda) (t : Task) (s : Orders.Step) : Agenda :=
  let a := { a with shop := { a.shop with orders := s.state } }.write s.journal
  match s.progress with
  | .calling call point => a.issue t call (.orders point)
  | .finished orders => a.finish t (.ok (.orders orders))
  | .stopped fault => a.finish t (.error (.fault fault))

/-! ## Rounds of loading -/

def syncMembers (withOrders : Bool) : List Request :=
  [.favourites .resync, .cart .refresh] ++ if withOrders then [.refreshOrders] else []

/-- The catalog has been loaded, or has to do without its products. -/
def listed (a : Agenda) (t : Task) (once : Bool) (catalog : Catalog) : Agenda :=
  if once then
    { a with shop := a.shop.useCatalog catalog }.delegate t .summary (syncMembers true)
  else a.finish t (.ok (.products catalog.products))

def listingReply (a : Agenda) (t : Task) (once : Bool) : Reply → Agenda
  | .value p =>
    let catalog := Catalog.ofPayload p
    (a.write (Product.complaints p ++
      [.info (s!"Catalog loaded with {catalog.size} products")])).listed t once catalog
  | .failure f =>
    (a.write [.error ("Catalog fetch failed (status=" ++ f.statusText ++ "): " ++ f.message)]).listed
      t once .empty
  | .fault fault => a.finish t (.error (.fault fault))

/-- The summary at the end of a round. -/
def summarize (a : Agenda) (t : Task) : Agenda :=
  match a.shop.summary with
  | (entries, .ok ()) => (a.write entries).finish t (.ok (.code a.shop.exitCode))
  | (entries, .error fault) => (a.write entries).finish t (.error (.fault fault))

def proceedJoined (a : Agenda) (t : Task) (join : Join) : Except Trouble (List Ending) → Agenda
  | .error trouble => a.finish t (.error trouble)
  | .ok endings =>
    match join with
    | .sync => a.finish t (.ok .nothing)
    | .summary => a.summarize t
    | .all => a.finish t (.ok (.all endings))

/-! ## Going on -/

def begin (a : Agenda) (t : Task) : Request → Agenda
  | .act action =>
    let d := a.shop.perform action
    ({ a with shop := d.shop }.write d.journal).finish t d.ending
  | .favourites r =>
    a.favouritesStep t (Favourites.begin a.shop.isAuthenticated a.shop.favourites r)
  | .cart r => a.cartStep t (Cart.begin a.shop.cartContext a.shop.cart r)
  | .refreshOrders => a.ordersStep t (Orders.begin a.shop.isAuthenticated a.shop.orders)
  | .sync withOrders => a.delegate t .sync (syncMembers withOrders)
  | .loadCatalog => a.issue t .getProducts (.listing false)
  | .syncOnce => a.issue t .getProducts (.listing true)
  | .call c => a.issue t c .direct
  | .arrange arrangement =>
    let (backend, answer) := a.backend.arrange arrangement
    { a with backend }.finish t (.ok (.payload answer))
  | .countCalls name =>
    a.finish t (.ok (.count (a.calls.countP fun c => c.endpoint.name == name)))

def resume (a : Agenda) (t : Task) (reply : Reply) : Waiting → Agenda
  | .favourites point =>
    a.favouritesStep t
      (Favourites.resume a.shop.isAuthenticated a.shop.favourites point reply)
  | .cart point => a.cartStep t (Cart.resume a.shop.cartContext a.shop.cart point reply)
  | .orders point => a.ordersStep t (Orders.resume a.shop.orders point reply)
  | .listing once => a.listingReply t once reply
  | .direct =>
    match reply with
    | .value p => a.finish t (.ok (.payload p))
    | .failure f => a.finish t (.error (.failure f))
    | .fault fault => a.finish t (.error (.fault fault))

/-- Let a task go on, if it can. -/
def goOn (a : Agenda) (t : Task) : Agenda :=
  match t.status with
  | .fresh request => a.begin t request
  | .calling _ call point =>
    match a.backend with
    | .memory m =>
      let (m, reply) := m.serve a.shop.isAuthenticated call
      { a with backend := .memory m }.resume t reply point
    | _ => a
  | .replied reply point => a.resume t reply point
  | .queued turn ticket =>
    a.favouritesStep t (Favourites.wake a.shop.favourites turn ticket)
  | .joining .. => a
  | .joined join endings => a.proceedJoined t join endings

def handle (a : Agenda) : Event → Agenda
  | .go id =>
    match a.task? id with
    | some t => a.goOn t
    | none => a
  | .ended member ending =>
    match a.task? member.group with
    | some t => a.memberEnded t member.slot ending
    | none => a

end Shopfront.Agenda
