import Mathlib.Logic.Basic
import Shopfront.Orders.Operation

/-! What fills an empty orders store: the reply that ends a load, if there is something in it
(`isEmpty_resume_iff`). -/

namespace Shopfront.Orders

def IsEmpty (o : Orders) : Prop := o.orders = [] ∧ o.products = .empty

/-- Replies that fill an empty store. Orders are shown once the products in them, if there are any,
have been loaded. -/
inductive Brings : Point → Reply → Prop
  | orders {p orders} : Order.listOf p = .ok orders → orders ≠ [] → productIds orders = [] →
      Brings .loadingOrders (.value p)
  | products {orders p} : orders ≠ [] ∨ Catalog.ofPayload p ≠ .empty →
      Brings (.loadingProducts orders) (.value p)

theorem brings_orders_iff {p : Payload} {orders : List Order} (h : Order.listOf p = .ok orders) :
    Brings .loadingOrders (.value p) ↔ ¬(productIds orders = [] → orders = []) := by
  rw [Classical.not_imp]
  constructor
  · rintro ⟨h', hn, hi⟩
    cases h.symm.trans h'
    exact ⟨hi, hn⟩
  · rintro ⟨hi, hn⟩
    exact .orders h hn hi

theorem brings_products_iff {orders : List Order} {p : Payload} :
    Brings (.loadingProducts orders) (.value p) ↔
      ¬(orders = [] ∧ Catalog.ofPayload p = .empty) := by
  rw [not_and_or]
  refine ⟨fun hb => ?_, .products⟩
  cases hb
  assumption

variable {o : Orders}

theorem isEmpty_begin (o : Orders) : (begin false o).state.IsEmpty := ⟨rfl, rfl⟩

theorem isEmpty_loadProducts_iff (h : o.IsEmpty) (orders : List Order) :
    (loadProducts o orders).state.IsEmpty ↔ (productIds orders = [] → orders = []) := by
  unfold loadProducts
  split
  · next hn =>
    rw [List.isEmpty_iff] at hn
    exact ⟨fun he _ => he.1, fun he => ⟨he hn, rfl⟩⟩
  · next hn =>
    rw [List.isEmpty_iff] at hn
    exact iff_of_true h fun he => absurd he hn

theorem isEmpty_resume_iff (h : o.IsEmpty) (point : Point) (reply : Reply) :
    (resume o point reply).state.IsEmpty ↔ ¬Brings point reply := by
  cases point with
  | loadingOrders =>
    cases reply with
    | value p =>
      cases hp : Order.listOf p with
      | ok orders =>
        rw [brings_orders_iff hp, not_not, ← isEmpty_loadProducts_iff h]
        simp only [resume, hp, Shopfront.Step.state_after]
      | error fault =>
        simp only [resume, hp]
        refine iff_of_true h fun hb => ?_
        obtain ⟨hp', _, _⟩ := hb
        cases hp.symm.trans hp'
    | failure f => exact iff_of_true h nofun
    | fault fault => exact iff_of_true h nofun
  | loadingProducts orders =>
    cases reply with
    | value p =>
      rw [brings_products_iff, not_not]
      exact Iff.rfl
    | failure f => exact iff_of_true h nofun
    | fault fault => exact iff_of_true h nofun

end Shopfront.Orders
