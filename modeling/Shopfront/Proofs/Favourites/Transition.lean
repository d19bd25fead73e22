import Shopfront.Proofs.Favourites.Underway

/-! What one step of an operation on the favourites can do. A step takes a reply in and then goes on
to its next load or to its end; only a toggle that gets its turn asks for a change. Main statements:
`begin_begins`, `wake_sends` and `resume_resumes` list the cases, so that facts on steps need no look
at the operations. -/

namespace Shopfront.Favourites

/-- The toggle that an operation at a point belongs to: its turn, and the outcome that it is coming
to. -/
def Point.toggle? : Point → Option (Turn × Outcome)
  | .loadingIds (.toggled turn _ outcome) => some (turn, outcome)
  | .loadingDetails _ (.toggled turn outcome) => some (turn, outcome)
  | .toggling turn _ outcome => some (turn, outcome)
  | _ => none

def Point.turn? (point : Point) : Option Turn := point.toggle?.map (·.1)

/-- The call that an operation waits for at a point. -/
inductive Asks : Call → Point → Prop
  | ids (next) : Asks .getFavourites (.loadingIds next)
  | details (wanted next) : Asks (.getProductsBatch wanted) (.loadingDetails wanted next)
  | remove (turn before) :
      Asks (.removeFavourite turn.product) (.toggling turn before .removed)
  | add (turn before) : Asks (.addFavourite turn.product) (.toggling turn before .added)

/-- How an operation goes on from a store. A toggle goes on to the outcome that it is coming to, and
leaves its turn then. -/
inductive Continues (authenticated : Bool) : Favourites → Option (Turn × Outcome) → Step → Prop
  | finish (f result) : Continues authenticated f none (.finish f result)
  | leave (f turn outcome) : Continues authenticated f (some (turn, outcome))
      (leave f turn (.finished (.outcome outcome)))
  | loadIds (f next) : authenticated = true →
      Continues authenticated f (Point.loadingIds next).toggle?
        (.call { f with idsPending := f.idsPending + 1 } .getFavourites (.loadingIds next))
  | loadDetails (f wanted next) :
      Continues authenticated f (Point.loadingDetails wanted next).toggle?
        (.call { f with detailsPending := f.detailsPending + 1 } (.getProductsBatch wanted)
          (.loadingDetails wanted next))
  | clear {f toggle? s} : authenticated = false → Continues authenticated f.clear toggle? s →
      Continues authenticated f toggle? s
  | noDetails {f toggle? s} : Continues authenticated { f with products := [] } toggle? s →
      Continues authenticated f toggle? s
  | after {f toggle? s} (entries) : Continues authenticated f toggle? s →
      Continues authenticated f toggle? (s.after entries)

/-- A toggle in its turn asks for the change of what it finds. -/
inductive Sends (f : Favourites) (turn : Turn) : Step → Prop
  | remove : turn.product ∈ f.ids → Sends f turn
      (.call { f with idsPending := f.idsPending + 1 } (.removeFavourite turn.product)
        (.toggling turn f.ids .removed))
  | add : turn.product ∉ f.ids → Sends f turn
      (.call { f with idsPending := f.idsPending + 1 } (.addFavourite turn.product)
        (.toggling turn f.ids .added))
  | after {s} (entries) : Sends f turn s → Sends f turn (s.after entries)

variable {authenticated : Bool} {f : Favourites}

theorem afterDetails_continues (wanted : List Int) (next : AfterDetails) :
    Continues authenticated f (Point.loadingDetails wanted next).toggle? (afterDetails f next) := by
  cases next with
  | nothing => exact .finish _ _
  | toggled turn outcome => exact .leave _ _ _

theorem loadDetails_continues (wanted : List Int) (next : AfterDetails) :
    Continues authenticated f (Point.loadingDetails wanted next).toggle?
      (loadDetails f wanted next) := by
  unfold loadDetails
  split
  · exact .noDetails (afterDetails_continues wanted next)
  · exact .after _ (.loadDetails _ _ _)

theorem afterIds_continues (next : AfterIds) :
    Continues authenticated f (Point.loadingIds next).toggle? (afterIds f next) := by
  cases next with
  | nothing => exact .finish _ _
  | details => exact loadDetails_continues f.ids .nothing
  | toggled turn before outcome =>
    simp only [afterIds]
    split
    · exact .leave _ _ _
    · exact loadDetails_continues f.ids (.toggled turn outcome)

theorem loadIds_continues (next : AfterIds) :
    Continues authenticated f (Point.loadingIds next).toggle? (loadIds authenticated f next) := by
  unfold loadIds
  split
  · next h => exact .loadIds _ _ h
  · next h => exact .after _ (.clear (Bool.eq_false_iff.mpr h) (afterIds_continues next))

theorem sendToggle_sends (turn : Turn) : Sends f turn (sendToggle f turn) := by
  unfold sendToggle
  split
  · next h => exact .after _ (.remove (List.contains_iff_mem.mp h))
  · next h => exact .after _ (.add fun hm => h (List.contains_iff_mem.mpr hm))

theorem Continues.era {toggle? : Option (Turn × Outcome)} {s : Step}
    (h : Continues authenticated f toggle? s) : s.state.era = f.era := by
  induction h with
  | finish _ _ => rfl
  | leave _ _ _ => rfl
  | loadIds _ _ _ => rfl
  | loadDetails _ _ _ => rfl
  | clear _ _ ih => exact ih
  | noDetails _ ih => exact ih
  | after _ _ ih => exact ih

theorem Sends.era {turn : Turn} {s : Step} (h : Sends f turn s) : s.state.era = f.era := by
  induction h with
  | remove _ => rfl
  | add _ => rfl
  | after _ _ ih => exact ih

/-- With a credential an operation that goes on keeps the ids. -/
theorem Continues.ids {toggle? : Option (Turn × Outcome)} {s : Step}
    (h : Continues true f toggle? s) : s.state.ids = f.ids := by
  induction h with
  | finish _ _ => rfl
  | leave _ _ _ => rfl
  | loadIds _ _ _ => rfl
  | loadDetails _ _ _ => rfl
  | clear hauth _ _ => cases hauth
  | noDetails _ ih => exact ih
  | after _ _ ih => exact ih

theorem Sends.ids {turn : Turn} {s : Step} (h : Sends f turn s) : s.state.ids = f.ids := by
  induction h with
  | remove _ => rfl
  | add _ => rfl
  | after _ _ ih => exact ih

/-- A step that takes no reply in. -/
inductive Begins (authenticated : Bool) (f : Favourites) : Request → Step → Prop
  /-- The turn of a toggle is free. -/
  | send {product id s} : authenticated = true → product.id? = some id →
      f.queues.isFree ⟨id, f.era⟩ = true →
      Sends { f with queues := f.queues.take ⟨id, f.era⟩ } ⟨id, f.era⟩ s →
      Begins authenticated f (.toggle product) s
  /-- A toggle gets in line. -/
  | queue {product id} : authenticated = true → product.id? = some id →
      f.queues.isFree ⟨id, f.era⟩ = false →
      Begins authenticated f (.toggle product)
        ⟨{ f with
          queues := f.queues.wait ⟨id, f.era⟩ f.tickets
          tickets := f.tickets + 1 }, [], .queued ⟨id, f.era⟩ f.tickets, none⟩
  | refuse {product outcome} : (authenticated = true → product.id? = none) →
      Begins authenticated f (.toggle product) (.finish f (.outcome outcome))
  | load {request s} : (∀ product, request ≠ .toggle product) → Continues authenticated f none s →
      Begins authenticated f request s
  /-- The ids that were asked for are no list. -/
  | stop {request} (kind) : (∀ product, request ≠ .toggle product) →
      Begins authenticated f request ⟨f, [], .stopped (.notIterable kind), none⟩
  | after {request s} (entries) : Begins authenticated f request s →
      Begins authenticated f request (s.after entries)

theorem begin_begins (request : Request) :
    Begins authenticated f request (begin authenticated f request) := by
  cases request with
  | refreshIds => exact .load nofun (loadIds_continues .nothing)
  | resync => exact .load nofun (loadIds_continues .details)
  | refreshDetails ids =>
    cases ids with
    | none => exact .load nofun (loadDetails_continues f.ids .nothing)
    | some ids =>
      simp only [begin]
      split
      · exact .load nofun (loadDetails_continues _ .nothing)
      · exact .stop _ nofun
  | toggle product =>
    simp only [begin, toggle]
    split
    · next hauth =>
      split
      · next id hid =>
        simp only [takeTurn]
        split
        · next hfree => exact .send hauth hid hfree (sendToggle_sends _)
        · next hbusy => exact .queue hauth hid (Bool.eq_false_iff.mpr hbusy)
      · next hid => exact .after _ (.refuse fun _ => hid)
    · next hauth => exact .after _ (.refuse fun h => absurd h hauth)

theorem Begins.era {request : Request} {s : Step} (h : Begins authenticated f request s) :
    s.state.era = f.era := by
  induction h with
  | send _ _ _ hsends => exact hsends.era
  | queue _ _ _ => rfl
  | refuse _ => rfl
  | load _ hcont => exact hcont.era
  | stop _ _ => rfl
  | after _ _ ih => exact ih

theorem wake_sends (turn : Turn) (ticket : Nat) :
    Sends { f with queues := f.queues.enter turn ticket } turn (wake f turn ticket) :=
  sendToggle_sends turn

/-! ## Replies -/

/-- The store when it has taken a reply in, before the operation goes on. -/
def received (f : Favourites) : Point → Reply → Favourites
  | .loadingIds _, .value p => releaseIds { applyIds p f with error := none }
  | .loadingIds _, .failure failure => releaseIds { f with error := some (idsError failure) }
  | .loadingDetails wanted _, .value p =>
    releaseDetails { applyDetails (wanted.map some) p f with error := none }
  | .loadingDetails .., .failure failure =>
    releaseDetails { f with products := [], error := some (failure.userMessage detailsFailed) }
  | .toggling .., .failure failure =>
    releaseIds { f with error := some (failure.userMessage toggleFailed) }
  | .loadingDetails .., .fault _ => releaseDetails f
  | _, _ => releaseIds f

@[simp] theorem queues_received (point : Point) (reply : Reply) :
    (received f point reply).queues = f.queues := by cases point <;> cases reply <;> rfl

@[simp] theorem tickets_received (point : Point) (reply : Reply) :
    (received f point reply).tickets = f.tickets := by cases point <;> cases reply <;> rfl

@[simp] theorem era_received (point : Point) (reply : Reply) :
    (received f point reply).era = f.era := by cases point <;> cases reply <;> rfl

/-- How an operation goes on when a reply comes. Besides going on it may be stopped, and a toggle may
fail. -/
inductive Resumes (authenticated : Bool) (f : Favourites) (point : Point) (reply : Reply) :
    Step → Prop
  | goOn {s} : Continues authenticated (received f point reply) point.toggle? s →
      Resumes authenticated f point reply s
  | fail {turn} : (∀ p, reply ≠ .value p) → point.turn? = some turn →
      Resumes authenticated f point reply
        (leave (received f point reply) turn (.finished (.outcome .failed)))
  | abandon {turn} (fault) : reply = .fault fault → point.turn? = some turn →
      Resumes authenticated f point reply (leave (received f point reply) turn (.stopped fault))
  | stop (fault) : reply = .fault fault → point.turn? = none →
      Resumes authenticated f point reply ⟨received f point reply, [], .stopped fault, none⟩
  | after {s} (entries) : Resumes authenticated f point reply s →
      Resumes authenticated f point reply (s.after entries)

theorem Resumes.era {point : Point} {reply : Reply} {s : Step}
    (h : Resumes authenticated f point reply s) : s.state.era = f.era := by
  induction h with
  | goOn hcont => exact hcont.era.trans (era_received point reply)
  | fail _ _ => exact era_received point reply
  | abandon _ _ _ => exact era_received point reply
  | stop _ _ _ => exact era_received point reply
  | after _ _ ih => exact ih

theorem abandon_resumes (point : Point) {fault : Fault} :
    Resumes authenticated f point (.fault fault)
      (abandon (received f point (.fault fault)) point.turn? fault) := by
  cases h : point.turn? with
  | none => exact .stop fault rfl h
  | some turn => exact .abandon fault rfl h

theorem resume_resumes (point : Point) (reply : Reply) :
    Resumes authenticated f point reply (resume authenticated f point reply) := by
  cases point with
  | loadingIds next =>
    cases reply with
    | value p => exact .after _ (.goOn (afterIds_continues next))
    | failure failure => exact .after _ (.goOn (afterIds_continues next))
    | fault fault => cases next <;> exact abandon_resumes _
  | loadingDetails wanted next =>
    cases reply with
    | value p => exact .after _ (.goOn (afterDetails_continues wanted next))
    | failure failure => exact .after _ (.goOn (afterDetails_continues wanted next))
    | fault fault => cases next <;> exact abandon_resumes _
  | toggling turn before outcome =>
    cases reply with
    | value p => exact .goOn (loadIds_continues (.toggled turn before outcome))
    | failure failure => exact .after _ (.fail nofun rfl)
    | fault fault => exact abandon_resumes (.toggling turn before outcome)

end Shopfront.Favourites
