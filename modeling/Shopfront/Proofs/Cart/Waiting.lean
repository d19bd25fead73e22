import Mathlib.Algebra.Ring.Nat
import Shopfront.Proofs.Cart.Transition

/-! What a cart counts as waiting. An operation counts while it waits for a reply. The change that a
failure takes back goes on counting while the cart is loaded again, so that operation counts twice
then. Main statements: a step leaves the cart with what the other operations count and what its own
operation counts after it (`counts_begin`, `counts_resume`). -/

namespace Shopfront.Cart

open Underway (callOf?)

/-- What an operation counts besides the load that it waits for. -/
def Next.held : Next → Nat
  | .fail _ => 1
  | _ => 0

/-- What an operation at a point counts. -/
def Point.weight : Point → Nat
  | .loading next => next.held + 1
  | .sending .. => 1
  | .folding .. => 1

theorem Point.weight_pos (point : Point) : 0 < point.weight := by
  cases point <;> simp [weight]

/-- What operations that wait count together. -/
def weigh (as : List (Awaited Point)) : Nat := (as.map (·.point.weight)).sum

theorem weigh_append (as bs : List (Awaited Point)) : weigh (as ++ bs) = weigh as + weigh bs := by
  simp [weigh]

theorem weigh_pos_iff {as : List (Awaited Point)} : 0 < weigh as ↔ as ≠ [] := by
  cases as with
  | nil => simp [weigh]
  | cons a as =>
    have := a.point.weight_pos
    simp only [weigh, List.map_cons, List.sum_cons, ne_eq, reduceCtorEq, not_false_eq_true, iff_true]
    omega

/-- What waited is the operation that goes on and those that stay. -/
theorem weigh_take {u : Underway Point Result} {place : Nat} {a : Awaited Point}
    (h : u.awaited[place]? = some a) :
    weigh u.awaited = weigh (u.take place).awaited + a.point.weight := by
  obtain ⟨hlt, rfl⟩ := List.getElem?_eq_some_iff.mp h
  have hsum := ((List.getElem_cons_eraseIdx_perm hlt).map (·.point.weight)).sum_nat
  rw [List.map_cons, List.sum_cons] at hsum
  rw [weigh, ← hsum, Nat.add_comm]
  rfl

/-- The cart counts the other operations and the one that has made the step. -/
def Counts (others : Nat) (s : Step) : Prop :=
  s.state.pending = others + weigh (callOf? s.progress).toList

variable {ctx : Context} {c : Cart} {n : Nat} {message? : Option String} {s : Step}

theorem Counts.after (h : Counts n s) (entries : Journal) : Counts n (s.after entries) := h

/-- What an operation counts that has a message to give: the change that has failed. -/
def heldFor (message? : Option String) : Nat := message?.toList.length

theorem heldFor_message? (next : Next) : heldFor next.message? = next.held := by
  cases next <;> rfl

theorem Proceeds.counts (hs : Proceeds ctx c message? s) (h : c.pending = n + heldFor message?) :
    Counts n s := by
  induction hs with
  | finish _ => exact h
  | fail message =>
    show c.pending - 1 = n
    rw [h, heldFor, Option.toList_some, List.length_singleton, Nat.add_sub_cancel]
  | send _ =>
    show c.pending + 1 = n + 1
    rw [h]
    rfl
  | after entries _ ih => exact (ih h).after entries

theorem Leads.counts (hs : Leads ctx c message? s) (h : c.pending = n + heldFor message?) :
    Counts n s := by
  induction hs with
  | proceed hproceeds => exact hproceeds.counts h
  | load next _ =>
    show c.pending + 1 = n + (next.held + 1)
    rw [h, heldFor_message?, Nat.add_assoc]
  | empty _ hproceeds => exact hproceeds.counts h
  | after entries _ ih => exact (ih h).after entries

theorem counts_begin (h : c.pending = n) (request : Request) : Counts n (begin ctx c request) :=
  (begin_leads request).counts h

/-! ## Replies -/

/-- A settled change gives up what it has counted. -/
theorem Settles.counts {product : Int} {shown : Option Line} {reply : Payload}
    (hs : Settles ctx c product shown reply s) (h : c.pending = n + 1) : Counts n s := by
  have hreleased : c.pending - 1 = n := by rw [h, Nat.add_sub_cancel]
  induction hs with
  | snapshot _ => exact hreleased
  | line _ _ _ => exact hreleased
  | unnamed _ _ _ => exact (reload_leads .succeed).counts hreleased
  | after entries _ ih => exact ih.after entries

theorem counts_foldNext (h : c.pending = n + 1) (product : Int) (shown : Option Line)
    (reply : Payload) (rest : List Reference) :
    Counts n (foldNext ctx c product shown reply rest) := by
  cases rest with
  | nil =>
    exact (settle_settles product shown reply).counts
      (c := { c with folded := c.folded.filter (·.1 != product) }) h
  | cons id rest => exact Counts.after (s := .call c _ (.folding product shown rest)) h _

/-- A step from a reply gives up what its operation has counted, whatever the reply is. -/
theorem counts_resume {point : Point} (h : c.pending = n + point.weight) (reply : Reply) :
    Counts n (resume ctx c point reply) := by
  cases point with
  | loading next =>
    have hreleased : c.pending - 1 = n + next.held := by
      rw [h, Point.weight, ← Nat.add_assoc, Nat.add_sub_cancel]
    have hgoesOn : c.pending - 1 = n + heldFor next.message? := by
      rw [hreleased, heldFor_message?]
    cases reply with
    | value p => exact ((proceed_proceeds (c := loaded ctx c p) next).counts hgoesOn).after _
    | failure f =>
      exact ((proceed_proceeds (c := release { c with error := some (f.userMessage loadFailed) })
        next).counts hgoesOn).after _
    | fault fault =>
      cases next with
      | fail message =>
        show c.pending - 1 - 1 = n
        rw [hreleased, Next.held, Nat.add_sub_cancel]
      | nothing | decrease product | remove product | succeed => exact hreleased
  | sending product shown folding =>
    cases reply with
    | value p =>
      simp only [resume]
      split
      · exact counts_foldNext h ..
      · exact (settle_settles product shown p).counts h
    | failure f => exact (revert_leads product folding f).counts h
    | fault fault =>
      show c.pending - 1 = n
      rw [h, Point.weight, Nat.add_sub_cancel]
  | folding product shown rest =>
    cases reply with
    | value p => exact counts_foldNext h ..
    | failure f => exact (revert_leads product true f).counts h
    | fault fault =>
      show c.pending - 1 = n
      rw [h, Point.weight, Nat.add_sub_cancel]

end Shopfront.Cart
