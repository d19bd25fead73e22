import Shopfront.Shop.Request

/-! The agenda of a shop: requests under way, and the queue of those that can go on. A request runs
until it has to wait; whoever can go on again is put at the end of the queue. -/

namespace Shopfront

/-- Where a request waits for a reply. -/
inductive Waiting where
  | favourites (point : Favourites.Point)
  | cart (point : Cart.Point)
  | orders (point : Orders.Point)
  /-- The listing of products was asked for, `once` as part of a whole round. -/
  | listing (once : Bool)
  | direct

/-- What a group of requests is for. A round of loading stops with the first member that is stopped;
other groups keep a member's trouble as its ending. -/
inductive Join where
  | sync
  | summary
  | all

/-- Whether the group stops with a member that ends like this. -/
def Join.stoppedBy? : Join → Ending → Option Trouble
  | .all, _ => none
  | _, .ok _ => none
  | _, .error trouble => some trouble

inductive Status where
  | fresh (request : Request)
  | calling (number : Nat) (call : Call) (point : Waiting)
  | replied (reply : Reply) (point : Waiting)
  | queued (turn : Favourites.Turn) (ticket : Nat)
  | joining (join : Join) (endings : List (Option Ending))
  | joined (join : Join) (endings : Except Trouble (List Ending))

/-- The place of a task among the members of a group. -/
structure Membership where
  /-- The task that waits for the group. -/
  group : Nat
  slot : Nat
  deriving DecidableEq, Repr

/-- A request under way. -/
structure Task where
  id : Nat
  membership : Option Membership
  status : Status

/-- What the queue holds: a task that can go on, or the news that a member has ended. -/
inductive Event where
  | go (task : Nat)
  | ended (member : Membership) (ending : Ending)

structure Agenda where
  shop : Shop
  backend : Backend
  tasks : List Task
  events : List Event
  nextTask : Nat
  /-- All calls so far, in the order in which they were made. -/
  calls : List Call
  journal : Journal
  /-- How tasks that belong to no group have ended. -/
  endings : List (Nat × Ending)

namespace Agenda

/-- Nothing is under way. -/
def ofShop (shop : Shop) (backend : Backend) : Agenda := ⟨shop, backend, [], [], 0, [], [], []⟩

def write (a : Agenda) (entries : Journal) : Agenda := { a with journal := a.journal ++ entries }

/-- Put an event at the end of the queue. -/
def push (a : Agenda) (e : Event) : Agenda := { a with events := a.events ++ [e] }

/-- Put an event at the front of the queue. -/
def pushFront (a : Agenda) (e : Event) : Agenda := { a with events := e :: a.events }

def task? (a : Agenda) (id : Nat) : Option Task := a.tasks.find? (·.id == id)

def setStatus (a : Agenda) (t : Task) (status : Status) : Agenda :=
  { a with tasks := a.tasks.map fun x => if x.id = t.id then { x with status } else x }

/-- A new task. -/
def add (a : Agenda) (membership : Option Membership) (status : Status) : Agenda :=
  { a with tasks := a.tasks ++ [⟨a.nextTask, membership, status⟩], nextTask := a.nextTask + 1 }

/-- A task has ended: its group gets the news in its turn. -/
def finish (a : Agenda) (t : Task) (ending : Ending) : Agenda :=
  let a := { a with tasks := a.tasks.filter (·.id != t.id) }
  match t.membership with
  | some member => a.push (.ended member ending)
  | none => { a with endings := a.endings ++ [(t.id, ending)] }

/-- How a task ended. -/
def ending? (a : Agenda) (id : Nat) : Option Ending := a.endings.lookup id

def hasEnded (a : Agenda) (id : Nat) : Bool := a.endings.any (·.1 == id)

/-- Add the requests as members of a group, from a slot on. -/
def addMembers (a : Agenda) (group : Nat) : Nat → List Request → Agenda
  | _, [] => a
  | slot, r :: rs =>
    addMembers ((a.add (some ⟨group, slot⟩) (.fresh r)).push (.go a.nextTask)) group (slot + 1) rs

/-- Let a task wait for a group of requests; an empty group has ended at once. -/
def delegate (a : Agenda) (t : Task) (join : Join) (requests : List Request) : Agenda :=
  if requests.isEmpty then (a.setStatus t (.joined join (.ok []))).pushFront (.go t.id)
  else (a.setStatus t (.joining join (requests.map fun _ => none))).addMembers t.id 0 requests

/-- A member of a group has ended. The group's task goes on when all have, or when one stops it; the
other members go on in any case. -/
def memberEnded (a : Agenda) (t : Task) (slot : Nat) (ending : Ending) : Agenda :=
  match t.status with
  | .joining join endings =>
    match join.stoppedBy? ending with
    | some trouble => (a.setStatus t (.joined join (.error trouble))).push (.go t.id)
    | none =>
      let endings := endings.set slot (some ending)
      if endings.all Option.isSome then
        (a.setStatus t (.joined join (.ok (endings.filterMap id)))).push (.go t.id)
      else a.setStatus t (.joining join endings)
  | _ => a

/-- Make a call for a task. -/
def issue (a : Agenda) (t : Task) (call : Call) (point : Waiting) : Agenda :=
  let number := a.calls.length
  let a := { a with calls := a.calls ++ [call] }
  match a.backend with
  | .memory _ => (a.setStatus t (.calling number call point)).push (.go t.id)
  | .held => a.setStatus t (.calling number call point)
  | .script s =>
    let (s, reply) := s.serve call
    ({ a with backend := .script s }.setStatus t (.replied reply point)).pushFront (.go t.id)
  | .web w =>
    let sent := w.perform a.shop.session.headers call
    (({ a with backend := .web sent.web }.write sent.journal).setStatus t
      (.replied sent.reply point)).pushFront (.go t.id)

/-- Whether a task waits for the turn that the ticket stands for. -/
def holdsTicket (ticket : Nat) (t : Task) : Bool :=
  match t.status with
  | .queued _ n => n == ticket
  | _ => false

/-- Let the toggle with the ticket go on in its turn. -/
def wake (a : Agenda) (ticket : Option Nat) : Agenda :=
  match ticket.bind fun n => a.tasks.find? (holdsTicket n) with
  | some t => a.push (.go t.id)
  | none => a

end Agenda

end Shopfront
