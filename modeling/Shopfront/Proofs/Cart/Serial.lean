import Shopfront.Proofs.Cart.Stage

/-! Operations on a cart one after another, each of them ended before the next begins. The backend may
keep several lines a product and may fail changes. Main statement: after each operation the cart shows
the backend's lines, merged, and the operation has done to the backend what its result says
(`Exchange.Rests.merged_and_done`). -/

namespace Shopfront.Cart.Exchange

/-- An event while an operation is under way: no other begins. -/
def Event.Follows : Event → Prop
  | .begin _ => False
  | .answer _ => True
  | .failNext endpoint _ _ => endpoint ≠ .getCart

/-- The states between operations. -/
inductive Rests (catalog : Catalog) (start : Exchange) : Exchange → Prop
  | start : Rests catalog start start
  | next {x y} (request) {events} : Rests catalog start x → (∀ e ∈ events, e.Follows) →
      (x.handle catalog (.begin request)).run catalog events = y →
      y.traffic.underway.awaited = [] → Rests catalog start y

/-- No operation is under way, and the cart shows what the backend keeps. -/
structure Rested (x : Exchange) : Prop where
  stocked : x.memory.WellStocked
  spared : ∀ f ∈ x.memory.failures, f.1 ≠ .getCart
  shows : Shows x.traffic.cart x.memory.rows
  quiet : x.traffic.underway.awaited = []

/-- One operation is under way, or has ended, since the backend kept the lines `before` and
operations had the `endings`. -/
structure Alone (request : Request) (before : List StoredLine) (endings : List (Except Fault Result))
    (x : Exchange) : Prop where
  stocked : x.memory.WellStocked
  spared : ∀ f ∈ x.memory.failures, f.1 ≠ .getCart
  stage : ∃ progress, Stage request before x.memory.cart x.traffic.cart progress ∧
    x.traffic.underway = Underway.record ⟨[], endings⟩ progress

variable {catalog : Catalog} {x y : Exchange}

theorem rested_opened (catalog : Catalog) (cart : Cart) {m : Memory} (hw : m.WellStocked)
    (hf : ∀ f ∈ m.failures, f.1 ≠ .getCart) : (opened catalog cart m).Rested := by
  obtain ⟨c₀, he⟩ := opened_eq catalog cart hf
  rw [he]
  exact ⟨hw, hf, shows_loaded hw _ c₀, rfl⟩

theorem Rested.begin (h : x.Rested) (request : Request) :
    (x.handle catalog (.begin request)).Alone request x.memory.cart x.traffic.underway.endings := by
  have hunderway : x.traffic.underway = ⟨[], x.traffic.underway.endings⟩ := by rw [← h.quiet]
  refine ⟨h.stocked, h.spared, _, begin_stage rfl h.stocked h.shows request, ?_⟩
  show x.traffic.underway.record _ = _
  rw [← hunderway]

variable {request : Request} {before : List StoredLine} {endings : List (Except Fault Result)}

theorem Alone.answer (h : x.Alone request before endings) (place : Nat) :
    (x.handle catalog (.answer place)).Alone request before endings := by
  obtain ⟨progress, hstage, hunderway⟩ := h.stage
  cases ha : x.traffic.underway.awaited[place]? with
  | none =>
    rw [handle_answer_of_none ha]
    exact h
  | some a =>
    cases progress with
    | calling call point =>
      have hawaited : x.traffic.underway.awaited = [⟨call, point⟩] := by rw [hunderway]; rfl
      rw [hawaited] at ha
      cases place with
      | succ n => cases ha
      | zero =>
        cases ha
        have hserved := h.stocked.serve_served hstage.onCart
        rw [handle_answer (by rw [hawaited]; rfl)]
        refine ⟨hserved.wellStocked h.stocked hstage.onCart, ?_, _,
          hstage.answered rfl h.stocked h.spared, ?_⟩
        · intro f hf
          exact h.spared f (hserved.failures hf)
        · show (x.traffic.underway.take 0).record _ = _
          rw [hunderway]
          rfl
    | finished _ =>
      rw [hunderway] at ha
      cases ha
    | stopped _ =>
      rw [hunderway] at ha
      cases ha

theorem Alone.handle (h : x.Alone request before endings) {e : Event} (he : e.Follows) :
    (x.handle catalog e).Alone request before endings := by
  cases e with
  | begin _ => cases he
  | answer place => exact h.answer place
  | failNext endpoint status error =>
    exact ⟨h.stocked.failNext .., Memory.spares_failNext h.spared he _ _, h.stage⟩

theorem Alone.run (h : x.Alone request before endings) {events : List Event}
    (he : ∀ e ∈ events, e.Follows) : (x.run catalog events).Alone request before endings := by
  induction events generalizing x with
  | nil => exact h
  | cons e es ih =>
    obtain ⟨hfollows, hes⟩ := List.forall_mem_cons.mp he
    exact ih (h.handle hfollows) hes

/-- An operation that has ended. -/
theorem Alone.ended (h : x.Alone request before endings) (hq : x.traffic.underway.awaited = []) :
    x.Rested ∧ ∃ result, x.traffic.underway.endings = endings ++ [.ok result] ∧
      Done request (before.map StoredLine.row) x.memory.rows result := by
  obtain ⟨progress, hstage, hunderway⟩ := h.stage
  cases hstage with
  | @ended result hshows hdone =>
    exact ⟨⟨h.stocked, h.spared, hshows, hq⟩, result, by rw [hunderway]; rfl, hdone⟩
  | _ =>
    rw [hunderway] at hq
    cases hq

theorem Rests.rested {start : Exchange} (hs : start.Rested) (h : Rests catalog start x) :
    x.Rested := by
  induction h with
  | start => exact hs
  | next request _ he hy hq ih =>
    subst hy
    exact (((ih.begin request).run he).ended hq).1

/-- **A cart that is used by one operation at a time follows the backend.** When an operation ends,
whichever of its changes failed, the lines are the backend's merged by product. Its result says what
was done to the backend: the change that was asked for, with the product's further lines folded into
the first, or nothing unless the product had further lines. -/
theorem Rests.merged_and_done (catalog : Catalog) (cart : Cart) (memory : Memory)
    (hstocked : memory.WellStocked) (hspared : ∀ f ∈ memory.failures, f.1 ≠ .getCart)
    (hx : Rests catalog (opened catalog cart memory) x) (request : Request) (events : List Event)
    (hevents : ∀ e ∈ events, e.Follows)
    (hy : (x.handle catalog (.begin request)).run catalog events = y)
    (hend : y.traffic.underway.awaited = []) :
    y.traffic.cart.lines.map Line.row = Row.merged y.memory.rows ∧
      ∃ result, y.traffic.underway.endings = x.traffic.underway.endings ++ [.ok result] ∧
        Done request x.memory.rows y.memory.rows result := by
  have hrested := hx.rested (rested_opened catalog cart hstocked hspared)
  subst hy
  obtain ⟨hy, hdone⟩ := ((hrested.begin request).run hevents).ended hend
  exact ⟨hy.shows.lines, hdone⟩

/-- A product with two lines: a removal fails after the first line has been changed, and the cart is
loaded again; a second try deletes the further line. -/
theorem Rests.merged_and_done_folding :
    let memory : Memory := ⟨[], [], [⟨1, 7, 2⟩, ⟨2, 9, 1⟩, ⟨4, 7, 1⟩], .list [], .objects, .list, .line,
      5, []⟩
    let start := opened .empty .empty memory
    let first : List Event := [.failNext .removeCartLine none none, .answer 0, .answer 0, .answer 0]
    let second : List Event := [.answer 0, .answer 0]
    let x := (start.handle .empty (.begin (.increase (.int 7)))).run .empty first
    let y := (x.handle .empty (.begin (.decrease (.int 7)))).run .empty second
    memory.WellStocked ∧ (∀ f ∈ memory.failures, f.1 ≠ .getCart) ∧ Rests .empty start x ∧
      (∀ e ∈ second, e.Follows) ∧ y.traffic.underway.awaited = [] ∧
      y.traffic.cart.lines.map Line.row = Row.merged y.memory.rows ∧
      ∃ result, y.traffic.underway.endings = x.traffic.underway.endings ++ [.ok result] ∧
        Done (.decrease (.int 7)) x.memory.rows y.memory.rows result := by
  intro memory start first second x y
  have hstocked : memory.WellStocked := ⟨by decide, by decide, by decide⟩
  have hspared : ∀ f ∈ memory.failures, f.1 ≠ .getCart := fun _ hf => nomatch hf
  have hfirst : ∀ e ∈ first, e.Follows := by simp [first, Event.Follows]
  have hsecond : ∀ e ∈ second, e.Follows := by simp [second, Event.Follows]
  have hx : x.traffic.underway.awaited = [] := List.isEmpty_iff.mp (by decide +kernel)
  have hy : y.traffic.underway.awaited = [] := List.isEmpty_iff.mp (by decide +kernel)
  have hrests : Rests .empty start x := .next _ .start hfirst rfl hx
  exact ⟨hstocked, hspared, hrests, hsecond, hy,
    Rests.merged_and_done .empty .empty memory hstocked hspared hrests (.decrease (.int 7)) second
      hsecond rfl hy⟩

end Shopfront.Cart.Exchange
