import Shopfront.Backend.Progress
import Shopfront.Favourites.Basic

/-! Operations of the favourites store. A toggle calls the service and then asks it for the ids
again; toggles of one product take turns. -/

namespace Shopfront.Favourites

inductive Outcome where
  | added
  | removed
  | loginRequired
  | invalidId
  | failed
  deriving DecidableEq, Repr

def Outcome.label : Outcome → String
  | added => "ADDED"
  | removed => "REMOVED"
  | loginRequired => "LOGIN_REQUIRED"
  | invalidId => "INVALID_ID"
  | failed => "FAILED"

inductive Request where
  | refreshIds
  /-- The products of the given ids, or of the favourites. -/
  | refreshDetails (ids : Option Payload)
  | resync
  | toggle (product : Payload)

inductive Result where
  | ids (ids : List Int)
  | products (products : List Product)
  | outcome (outcome : Outcome)
  deriving DecidableEq, Repr

/-- What follows when the ids have been asked for. -/
inductive AfterIds where
  | nothing
  | details
  | toggled (turn : Turn) (before : List Int) (outcome : Outcome)
  deriving DecidableEq, Repr

/-- What follows when the details have been asked for. -/
inductive AfterDetails where
  | nothing
  | toggled (turn : Turn) (outcome : Outcome)
  deriving DecidableEq, Repr

/-- Where an operation waits. -/
inductive Point where
  | loadingIds (next : AfterIds)
  | loadingDetails (wanted : List Int) (next : AfterDetails)
  /-- The service was asked to add or to remove the product of the turn. -/
  | toggling (turn : Turn) (before : List Int) (outcome : Outcome)
  deriving DecidableEq, Repr

/-- Where an operation stands after a step: at a call, in a queue, or at its end. -/
inductive Progress where
  | calling (call : Call) (point : Point)
  | queued (turn : Turn) (ticket : Nat)
  | finished (result : Result)
  | stopped (fault : Fault)

/-- A step, with the ticket of the waiting toggle that it wakes. -/
structure Step where
  state : Favourites
  journal : Journal
  progress : Progress
  woken : Option Nat

namespace Step

def finish (f : Favourites) (result : Result) : Step := ⟨f, [], .finished result, none⟩

def call (f : Favourites) (c : Call) (point : Point) : Step := ⟨f, [], .calling c point, none⟩

def after (entries : Journal) (s : Step) : Step := { s with journal := entries ++ s.journal }

@[simp] theorem state_after (entries : Journal) (s : Step) : (s.after entries).state = s.state :=
  rfl

@[simp] theorem progress_after (entries : Journal) (s : Step) :
    (s.after entries).progress = s.progress := rfl

end Step

def serviceMissing : String := "Favorites service not found"
def idsFailed : String := "Failed to load favorites"
def detailsFailed : String := "Failed to load product details"
def toggleFailed : String := "Failed to update favorite"

/-- The end of a toggle: its turn is over, and the first waiting one is woken. -/
def leave (f : Favourites) (turn : Turn) (progress : Progress) : Step where
  state := { f with queues := f.queues.leave turn }
  journal := []
  progress
  woken := f.queues.first? turn

def afterDetails (f : Favourites) : AfterDetails → Step
  | .nothing => .finish f (.products f.products)
  | .toggled turn outcome => leave f turn (.finished (.outcome outcome))

/-- Ask for the products of the ids; for none there is nothing to ask. -/
def loadDetails (f : Favourites) (wanted : List Int) (next : AfterDetails) : Step :=
  if wanted.isEmpty then afterDetails { f with products := [] } next
  else
    (Step.call { f with detailsPending := f.detailsPending + 1 } (.getProductsBatch wanted)
      (.loadingDetails wanted next)).after
      [.info ("Fetching details for favourite ids: " ++ Payload.quotedInts wanted)]

def afterIds (f : Favourites) : AfterIds → Step
  | .nothing => .finish f (.ids f.ids)
  | .details => loadDetails f f.ids .nothing
  | .toggled turn before outcome =>
    if f.ids = before then leave f turn (.finished (.outcome outcome))
    else loadDetails f f.ids (.toggled turn outcome)

/-- Ask for the ids; without a credential there are none. -/
def loadIds (authenticated : Bool) (f : Favourites) (next : AfterIds) : Step :=
  if authenticated then
    .call { f with idsPending := f.idsPending + 1 } .getFavourites (.loadingIds next)
  else
    (afterIds f.clear next).after [.info "User not authenticated, favourites unavailable"]

/-- Ask the service to remove a favourite, or to add what is none. -/
def sendToggle (f : Favourites) (turn : Turn) : Step :=
  let busy := { f with idsPending := f.idsPending + 1 }
  if f.ids.contains turn.product then
    (Step.call busy (.removeFavourite turn.product) (.toggling turn f.ids .removed)).after
      [.info ("Removing from favourites: " ++ Integer.text turn.product)]
  else
    (Step.call busy (.addFavourite turn.product) (.toggling turn f.ids .added)).after
      [.info ("Adding to favourites: " ++ Integer.text turn.product)]

/-- Toggle at once if no other toggle of the product is at work or waiting; else get in line. -/
def takeTurn (f : Favourites) (product : Int) : Step :=
  let turn : Turn := ⟨product, f.era⟩
  if f.queues.isFree turn then sendToggle { f with queues := f.queues.take turn } turn
  else
    { state := { f with queues := f.queues.wait turn f.tickets, tickets := f.tickets + 1 }
      journal := []
      progress := .queued turn f.tickets
      woken := none }

def toggle (authenticated : Bool) (f : Favourites) (product : Payload) : Step :=
  if authenticated then
    match product.id? with
    | some id => takeTurn f id
    | none =>
      (Step.finish f (.outcome .invalidId)).after
        [.warning ("Toggle favourite called with a non-numeric id: " ++ product.quoted)]
  else
    (Step.finish f (.outcome .loginRequired)).after
      [.info ("Toggle favourite for " ++ product.quoted ++ " refused: not logged in")]

/-- The ids a caller asks for, each at its first place. -/
def wantedIds (entries : List Payload) : List Int := (entries.filterMap Payload.id?).eraseDups

def begin (authenticated : Bool) (f : Favourites) : Request → Step
  | .refreshIds => loadIds authenticated f .nothing
  | .refreshDetails none => loadDetails f f.ids .nothing
  | .refreshDetails (some ids) =>
    match ids.elements? with
    | some entries => loadDetails f (wantedIds entries) .nothing
    | none => ⟨f, [], .stopped (.notIterable ids.kind), none⟩
  | .resync => loadIds authenticated f .details
  | .toggle product => toggle authenticated f product

/-- A toggle that waited for its turn goes to work. -/
def wake (f : Favourites) (turn : Turn) (ticket : Nat) : Step :=
  sendToggle { f with queues := f.queues.enter turn ticket } turn

def releaseIds (f : Favourites) : Favourites := { f with idsPending := f.idsPending - 1 }
def releaseDetails (f : Favourites) : Favourites := { f with detailsPending := f.detailsPending - 1 }

/-- A fault ends the operation; a toggle gives up its turn. -/
def abandon (f : Favourites) (turn : Option Turn) (fault : Fault) : Step :=
  match turn with
  | some turn => leave f turn (.stopped fault)
  | none => ⟨f, [], .stopped fault, none⟩

def AfterIds.turn? : AfterIds → Option Turn
  | toggled turn _ _ => some turn
  | _ => none

def AfterDetails.turn? : AfterDetails → Option Turn
  | toggled turn _ => some turn
  | nothing => none

/-- The user's message for ids that could not be loaded. -/
def idsError (failure : Failure) : String :=
  if failure.status = some 404 then serviceMissing else failure.userMessage idsFailed

def resume (authenticated : Bool) (f : Favourites) : Point → Reply → Step
  | .loadingIds next, .value p =>
    let fresh := releaseIds { applyIds p f with error := none }
    (afterIds fresh next).after
      (complaints p ++ [.info (s!"Loaded {fresh.ids.length} favourite ids")])
  | .loadingIds next, .failure failure =>
    (afterIds (releaseIds { f with error := some (idsError failure) }) next).after
      [.error ("Error fetching favourite ids (status=" ++ failure.statusText ++ "): " ++
        failure.message)]
  | .loadingIds next, .fault fault => abandon (releaseIds f) next.turn? fault
  | .loadingDetails wanted next, .value p =>
    (afterDetails (releaseDetails { applyDetails (wanted.map some) p f with error := none })
      next).after (Product.complaints p)
  | .loadingDetails _ next, .failure failure =>
    (afterDetails (releaseDetails
      { f with products := [], error := some (failure.userMessage detailsFailed) }) next).after
      [.error ("Error fetching favourite details (status=" ++ failure.statusText ++ "): " ++
        failure.message)]
  | .loadingDetails _ next, .fault fault => abandon (releaseDetails f) next.turn? fault
  | .toggling turn before outcome, .value _ =>
    loadIds authenticated (releaseIds f) (.toggled turn before outcome)
  | .toggling turn _ _, .failure failure =>
    (leave (releaseIds { f with error := some (failure.userMessage toggleFailed) }) turn
      (.finished (.outcome .failed))).after
      [.error ("Error toggling favourite " ++ Integer.text turn.product ++ " (status=" ++
        failure.statusText ++ "): " ++ failure.message)]
  | .toggling turn _ _, .fault fault => abandon (releaseIds f) (some turn) fault

end Shopfront.Favourites
