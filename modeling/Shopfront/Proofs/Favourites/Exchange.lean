import Shopfront.Proofs.Backend.Favourites
import Shopfront.Proofs.Favourites.Tally
import Shopfront.Proofs.Favourites.Toggles

/-! A favourites store and the backend in memory that answers it. Toggles and loads begin at any
moments and overlap; a call is worked out when its answer is taken in. -/

namespace Shopfront.Favourites

/-- The outcome of the toggle at a point, if a progress ends it. -/
def Point.ended? (point : Point) : Progress → Option (Int × Outcome)
  | .finished (.outcome outcome) => point.product?.map (·, outcome)
  | _ => none

variable {authenticated : Bool} {f : Favourites} {s : Step}

/-- A toggle asks for the change of what it finds. -/
theorem Sends.awaits {turn : Turn} (h : Sends f turn s) :
    ∃ call, s.progress.awaited? =
      some ⟨call, .toggling turn f.ids (outcomeOf (decide (turn.product ∈ f.ids)))⟩ := by
  induction h with
  | remove hmem => exact ⟨_, by simp [outcomeOf, hmem]; rfl⟩
  | add hmem => exact ⟨_, by simp [outcomeOf, hmem]; rfl⟩
  | after _ _ ih => exact ih

/-! ## Toggles at work -/

/-- The point, if an operation at it is a toggle. -/
def Point.ofToggle? (point : Point) : Option Point := point.toggle?.map fun _ => point

namespace Underway

variable {u : Underway} {place : Nat}

/-- Where the toggles at work wait. -/
def points (u : Underway) : List Point := u.calls.awaited.filterMap (·.point.ofToggle?)

theorem points_record (u : Underway) (s : Step) :
    (u.record s).points = u.points ++ (s.progress.awaited?.bind (·.point.ofToggle?)).toList :=
  u.filterMap_awaited_record s _

theorem points_takeCall {a : Awaited Point} (h : u.calls.awaited[place]? = some a) :
    u.points.Perm (a.point.ofToggle?.toList ++ (u.takeCall place).points) :=
  Shopfront.Underway.filterMap_awaited_take h _

theorem mem_points {point : Point} (h : point ∈ u.points) :
    ∃ a ∈ u.calls.awaited, a.point = point := by
  obtain ⟨a, ha, hpoint⟩ := List.mem_filterMap.mp h
  obtain ⟨_, _, he⟩ := Option.map_eq_some_iff.mp hpoint
  exact ⟨a, ha, he⟩

theorem mem_turns_of_awaited {a : Awaited Point} (ha : a ∈ u.calls.awaited) {turn : Turn}
    (h : a.point.turn? = some turn) : turn ∈ u.turns :=
  List.mem_append_left _ (List.mem_filterMap.mpr ⟨a, ha, h⟩)

/-- In one era no toggle of a product is at work if none is in its turn. -/
theorem idle_of_atWork {turn : Turn} (hcurrent : ∀ t ∈ u.turns, t.era = turn.era)
    (h : u.atWork turn = 0) : turn.product ∉ u.points.filterMap Point.product? := by
  intro hmem
  obtain ⟨point, hpoint, hproduct⟩ := List.mem_filterMap.mp hmem
  obtain ⟨a, ha, rfl⟩ := mem_points hpoint
  obtain ⟨t, ht, he⟩ := Option.map_eq_some_iff.mp hproduct
  have hera := hcurrent t (mem_turns_of_awaited ha ht)
  have hsame : t = turn := by
    cases t
    cases turn
    cases he
    cases hera
    rfl
  refine List.countP_eq_zero.mp h a ha ?_
  rw [ht, hsame]
  exact beq_self_eq_true _

theorem points_eq_nil (h : u.turns = []) : u.points = [] := by
  refine List.eq_nil_iff_forall_not_mem.mpr fun point hpoint => ?_
  obtain ⟨a, ha, hpoint⟩ := List.mem_filterMap.mp hpoint
  obtain ⟨toggle, htoggle, _⟩ := Option.map_eq_some_iff.mp hpoint
  have hmem : toggle.1 ∈ u.turns := mem_turns_of_awaited ha (by rw [Point.turn?, htoggle]; rfl)
  rw [h] at hmem
  cases hmem

end Underway

/-! ## The exchange -/

structure Exchange where
  store : Favourites
  underway : Underway
  memory : Memory
  /-- The product and the outcome of each toggle that has ended, in the order in which they ran. -/
  outcomes : List (Int × Outcome)

namespace Exchange

/-- What may happen next. The backend works a call out when its answer is taken in, and the operation
goes on at once. -/
inductive Event where
  | begin (request : Request)
  | answer (place : Nat)
  | turn (place : Nat)

def handle (x : Exchange) : Event → Exchange
  | .begin request =>
    let s := Favourites.begin true x.store request
    { x with store := s.state, underway := x.underway.record s }
  | .answer place =>
    match x.underway.calls.awaited[place]? with
    | some a =>
      let (memory, reply) := x.memory.serve true a.call
      let s := resume true x.store a.point reply
      ⟨s.state, (x.underway.takeCall place).record s, memory,
        x.outcomes ++ (a.point.ended? s.progress).toList⟩
    | none => x
  | .turn place =>
    match x.underway.woken[place]? with
    | some w =>
      let s := wake x.store w.turn w.ticket
      { x with store := s.state, underway := (x.underway.takeWoken place).record s }
    | none => x

def run (x : Exchange) (events : List Event) : Exchange := events.foldl handle x

/-- A store that has just been loaded from the backend. -/
def opened (store : Favourites) (memory : Memory) : Exchange :=
  run ⟨store, .idle, memory, []⟩ [.begin .resync, .answer 0, .answer 0]

/-- The product that the caller asks to toggle. -/
def Event.product? : Event → Option Int
  | .begin (.toggle product) => product.id?
  | _ => none

variable {x : Exchange} {place : Nat}

theorem handle_answer {a : Awaited Point} (ha : x.underway.calls.awaited[place]? = some a) :
    x.handle (.answer place) =
      let s := resume true x.store a.point (x.memory.serve true a.call).2
      ⟨s.state, (x.underway.takeCall place).record s, (x.memory.serve true a.call).1,
        x.outcomes ++ (a.point.ended? s.progress).toList⟩ := by
  simp only [handle, ha]

theorem handle_turn {w : Waiter} (hw : x.underway.woken[place]? = some w) :
    x.handle (.turn place) =
      { x with
        store := (wake x.store w.turn w.ticket).state
        underway := (x.underway.takeWoken place).record (wake x.store w.turn w.ticket) } := by
  simp only [handle, hw]

end Exchange

end Shopfront.Favourites
