import Shopfront.Orders.Operation
import Shopfront.Proofs.Backend.Report
import Shopfront.Proofs.Underway

/-! What the orders store says of failed calls. Main statements: orders can only be unreadable for want
of a list (`Order.notIterable_of_listOf`), and a step that ends its operation ends it as it should
(`begin_honest`, `resume_honest`). -/

namespace Shopfront

theorem OrderItem.notIterable_of_listOf {p : Payload} {fault : Fault}
    (h : OrderItem.listOf p = .error fault) : ∃ kind, fault = .notIterable kind := by
  unfold listOf at h
  split at h
  · cases h
  · split at h
    · cases h
    · cases h
      exact ⟨p.kind, rfl⟩

namespace Order

theorem notIterable_of_ofPayload? {entry : Payload} {fault : Fault}
    (h : ofPayload? entry = .error fault) : ∃ kind, fault = .notIterable kind := by
  unfold ofPayload? at h
  split at h
  · cases h
  · split at h
    · cases h
    · next fields _ _ id _ =>
      cases hitems : OrderItem.listOf (Fields.get fields "items") with
      | ok items =>
        rw [hitems] at h
        cases h
      | error cause =>
        rw [hitems] at h
        obtain rfl : cause = fault := Except.error.inj h
        exact OrderItem.notIterable_of_listOf hitems

theorem notIterable_of_readEntries {entries : List Payload} {fault : Fault}
    (h : (readEntries entries).2 = .error fault) : ∃ kind, fault = .notIterable kind := by
  induction entries with
  | nil => cases h
  | cons entry entries ih =>
    simp only [readEntries] at h
    split at h
    · next hentry =>
      cases h
      exact notIterable_of_ofPayload? hentry
    · exact ih h
    · cases hrest : (readEntries entries).2 with
      | ok orders =>
        rw [hrest] at h
        cases h
      | error cause =>
        rw [hrest] at h
        cases h
        exact ih hrest

theorem notIterable_of_listOf {p : Payload} {fault : Fault} (h : listOf p = .error fault) :
    ∃ kind, fault = .notIterable kind :=
  notIterable_of_readEntries h

end Order

namespace Orders

open Underway (endingOf?)

/-- A step that leaves nothing unsaid if it ends its operation. -/
def Honest (failed : Bool) (s : Step) : Prop :=
  ∀ ending ∈ endingOf? s.progress, Tells failed s.state.error ending

variable {failed : Bool} {o : Orders} {s : Step}

theorem Honest.after (h : Honest failed s) (entries : Journal) : Honest failed (s.after entries) :=
  h

theorem honest_finish {orders : List Order} (h : failed = true → Reported o.error) :
    Honest failed (.finish o orders) := by
  intro ending hending
  cases hending
  exact h

theorem begin_honest (authenticated : Bool) (o : Orders) : Honest false (begin authenticated o) := by
  unfold begin
  split
  · intro ending hending
    cases hending
  · exact honest_finish nofun

theorem apply_honest (o : Orders) (orders : List Order) (products : Catalog) :
    Honest false (apply o orders products) := by
  intro ending hending
  cases hending
  exact nofun

theorem loadProducts_honest (o : Orders) (orders : List Order) :
    Honest false (loadProducts o orders) := by
  unfold loadProducts
  split
  · exact apply_honest o orders .empty
  · intro ending hending
    cases hending

/-- A step from a value or a failure leaves nothing unsaid. -/
theorem resume_honest (o : Orders) (point : Point) (reply : Reply)
    (hreply : reply.isFault = false) : Honest reply.isFailure (resume o point reply) := by
  cases reply with
  | fault fault => cases hreply
  | failure f =>
    have hreported : Reported (some (f.userMessage loadFailed)) :=
      f.reported_userMessage (by decide)
    cases point <;> exact (honest_finish fun _ => hreported).after _
  | value p =>
    cases point with
    | loadingProducts orders => exact (apply_honest o orders (Catalog.ofPayload p)).after _
    | loadingOrders =>
      refine Honest.after ?_ _
      split
      · exact loadProducts_honest o _
      · next fault hlist =>
        intro ending hending
        cases hending
        exact ⟨rfl, Order.notIterable_of_listOf hlist⟩

end Orders

end Shopfront
