import Shopfront.Agenda.Step

/-! Working through the agenda, and what its user can do: ask for something, ask for several things
at once, and settle a held call. -/

namespace Shopfront.Agenda

/-- Work through the queue, at most the given number of events, until it is empty or the awaited
task has ended. -/
def run (awaited : Option Nat) : Nat → Agenda → Agenda
  | 0, a => a
  | fuel + 1, a =>
    if awaited.any a.hasEnded then a
    else
      match a.events with
      | [] => a
      | e :: es => run awaited fuel ({ a with events := es }.handle e)

/-- The most events that one request is given. -/
def eventLimit : Nat := 10000000

/-- Ask for something and wait for the ending. -/
def perform (a : Agenda) (request : Request) : Agenda :=
  run (some a.nextTask) eventLimit ((a.add none (.fresh request)).pushFront (.go a.nextTask))

/-- Ask for several things at once and wait until all have ended. -/
def performAll (a : Agenda) (requests : List Request) : Agenda :=
  let t : Task := ⟨a.nextTask, none, .joining .all []⟩
  run (some t.id) eventLimit ((a.add none t.status).delegate t .all requests)

/-- Ask for something and do whatever can be done without waiting for a settlement. -/
def start (a : Agenda) (request : Request) : Agenda :=
  run none eventLimit ((a.add none (.fresh request)).push (.go a.nextTask))

/-- Whether a task waits for the call with the number. -/
def waitsFor (number : Nat) (t : Task) : Bool :=
  match t.status with
  | .calling n _ _ => n == number
  | _ => false

/-- Settle a held call, and do whatever can be done then. -/
def settle (a : Agenda) (number : Nat) (reply : Reply) : Agenda :=
  match a.tasks.find? (waitsFor number) with
  | some t =>
    match t.status with
    | .calling _ _ point =>
      run none eventLimit ((a.setStatus t (.replied reply point)).push (.go t.id))
    | _ => a
  | none => a

end Shopfront.Agenda
