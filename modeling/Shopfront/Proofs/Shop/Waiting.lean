import Shopfront.Proofs.Cart.Waiting
import Shopfront.Proofs.Favourites.Waiting
import Shopfront.Proofs.Shop.Toggles

/-! The loading flags of a shop. The stores count the operations that wait for them, and what the
caller does at once, a reset or a logout included, leaves the counts alone. Main statement: at every
moment a flag is set exactly if a call of its kind has no answer yet (`isLoading_iff`). -/

namespace Shopfront.Shop

/-- What an action leaves of the counts: all of them. -/
theorem pending_perform (s : Shop) (action : Action) :
    (s.perform action).shop.cart.pending = s.cart.pending ∧
      (s.perform action).shop.favourites.idsPending = s.favourites.idsPending ∧
      (s.perform action).shop.favourites.detailsPending = s.favourites.detailsPending := by
  suffices hp : ∀ {s' : Shop}, Performs s action s' →
      s'.cart.pending = s.cart.pending ∧ s'.favourites.idsPending = s.favourites.idsPending ∧
        s'.favourites.detailsPending = s.favourites.detailsPending from
    hp (s.perform_performs action)
  intro s' hp
  cases hp <;> exact ⟨rfl, rfl, rfl⟩

namespace Traffic

/-- The cart and the favourites count the operations that wait for them. -/
structure Counted (t : Traffic) : Prop where
  cart : t.shop.cart.pending = Cart.weigh t.cart.awaited
  favourites : Favourites.Counted t.shop.favourites t.favourites.calls.awaited

variable {t : Traffic}

theorem Counted.cartStep {u : Underway Cart.Point Cart.Result} (h : t.Counted) {s : Cart.Step}
    (hs : Cart.Counts (Cart.weigh u.awaited) s) : ({ t with cart := u }.cartStep s).Counted := by
  refine ⟨?_, h.favourites⟩
  show s.state.pending = Cart.weigh (u.record s.progress).awaited
  rw [Underway.awaited_record, Cart.weigh_append]
  exact hs

theorem Counted.favouritesStep {u : Favourites.Underway} (h : t.Counted) {s : Favourites.Step}
    (hs : Favourites.CountedStep u.calls.awaited s) :
    ({ t with favourites := u }.favouritesStep s).Counted := by
  refine ⟨h.cart, ?_⟩
  show Favourites.Counted s.state (u.record s).calls.awaited
  rw [Favourites.Underway.awaited_record]
  exact hs

theorem Counted.begin (h : t.Counted) (operation : Operation) : (t.begin operation).Counted := by
  cases operation with
  | favourites request => exact h.favouritesStep (h.favourites.begin _ request)
  | cart request => exact h.cartStep (Cart.counts_begin h.cart request)
  | refreshOrders => exact ⟨h.cart, h.favourites⟩

theorem Counted.land (h : t.Counted) (landing : Landing) : (t.land landing).Counted := by
  suffices hl : ∀ {t'}, Lands t landing t' → t'.Counted from hl (t.land_lands landing)
  intro t' hl
  cases hl with
  | missed _ => exact h
  | favourites reply ha => exact h.favouritesStep (h.favourites.resume ha _ reply)
  | @turn place w _ =>
    exact h.favouritesStep (u := t.favourites.takeWoken place) (h.favourites.wake w.turn w.ticket)
  | cart reply ha =>
    exact h.cartStep (Cart.counts_resume (h.cart.trans (Cart.weigh_take ha)) reply)
  | orders => exact ⟨h.cart, h.favourites⟩

theorem Counted.handle (h : t.Counted) (e : Event) : (t.handle e).Counted := by
  cases e with
  | act action =>
    obtain ⟨hcart, hids, hdetails⟩ := t.shop.pending_perform action
    exact ⟨hcart.trans h.cart, hids.trans h.favourites.ids, hdetails.trans h.favourites.details⟩
  | begin operation => exact h.begin operation
  | land landing => exact h.land landing

theorem counted_run (session : Session) (catalog : Catalog) (taxRate : Decimal)
    (events : List Event) : ((start session catalog taxRate).run events).Counted := by
  refine run_keeps ?_ fun h e _ => h.handle e
  exact ⟨rfl, ⟨rfl, rfl⟩⟩

/-- **The loading flags are exact.** Let operations of all three stores interleave with logins,
logouts and resets in any way, and let each call be answered in any order by a value, a failure or a
fault. At every moment the cart is loading if and only if a call of one of its operations is
outstanding, the ids are if and only if a call that lists or changes the favourites is, and the
details are if and only if a call of the favourites for products is. -/
theorem isLoading_iff (session : Session) (catalog : Catalog) (taxRate : Decimal)
    (events : List Event) :
    let t := (start session catalog taxRate).run events
    (t.shop.cart.isLoading = true ↔ t.cart.awaited ≠ []) ∧
      (t.shop.favourites.idsLoading = true ↔
        ∃ a ∈ t.favourites.calls.awaited, a.call.endpoint ∈ Favourites.favouritesEndpoints) ∧
      (t.shop.favourites.detailsLoading = true ↔
        ∃ a ∈ t.favourites.calls.awaited, a.call.endpoint = .getProductsBatch) := by
  intro t
  have hcounted : t.Counted := counted_run session catalog taxRate events
  have hasks := (lined_run session catalog taxRate events).asks
  refine ⟨?_, ?_, ?_⟩
  · rw [Cart.isLoading, decide_eq_true_iff, hcounted.cart]
    exact Cart.weigh_pos_iff
  · rw [Favourites.idsLoading, decide_eq_true_iff, hcounted.favourites.ids, List.countP_pos_iff]
    exact exists_congr fun a => and_congr_right fun ha =>
      (hasks a ha).mem_favouritesEndpoints_iff.symm
  · rw [Favourites.detailsLoading, decide_eq_true_iff, hcounted.favourites.details,
      List.countP_pos_iff]
    exact exists_congr fun a => and_congr_right fun ha => (hasks a ha).endpoint_eq_batch_iff.symm

end Traffic

end Shopfront.Shop
