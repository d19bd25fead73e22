import Mathlib.Data.List.Induction
import Shopfront.Proofs.Cart.Filling
import Shopfront.Proofs.Favourites.Filling
import Shopfront.Proofs.Orders.Filling
import Shopfront.Proofs.Shop.Action
import Shopfront.Proofs.Shop.Traffic

/-! What a logout leaves to happen. A logout empties the stores and takes the credential away, but
the operations under way go on when their replies land, and a reply that lands late may fill a store
again. Main statement: a shop stays empty after a logout exactly as long as no landing brings
anything (`isEmpty_after_logout_iff`). -/

namespace Shopfront

/-- Whether the caller hands something over: a payload for a store, or a token. -/
def Action.handsOver : Action → Bool
  | .applyFavourites _ => true
  | .applyDetails .. => true
  | .applyCart _ => true
  | .login _ => true
  | _ => false

namespace Shop

structure IsEmpty (s : Shop) : Prop where
  favourites : s.favourites.IsEmpty
  cart : s.cart.lines = []
  orders : s.orders.IsEmpty

structure LoggedOut (s : Shop) : Prop where
  empty : s.IsEmpty
  anonymous : s.isAuthenticated = false

variable {s : Shop}

theorem loggedOut_logout (s : Shop) : s.logout.LoggedOut :=
  ⟨⟨⟨rfl, rfl⟩, rfl, ⟨rfl, rfl⟩⟩, rfl⟩

theorem IsEmpty.favourites_iff (h : s.IsEmpty) (f : Favourites) :
    { s with favourites := f }.IsEmpty ↔ f.IsEmpty :=
  ⟨fun h' => h'.favourites, fun hf => ⟨hf, h.cart, h.orders⟩⟩

theorem IsEmpty.cart_iff (h : s.IsEmpty) (c : Cart) :
    { s with cart := c }.IsEmpty ↔ c.lines = [] :=
  ⟨fun h' => h'.cart, fun hc => ⟨h.favourites, hc, h.orders⟩⟩

theorem IsEmpty.orders_iff (h : s.IsEmpty) (o : Orders) :
    { s with orders := o }.IsEmpty ↔ o.IsEmpty :=
  ⟨fun h' => h'.orders, fun ho => ⟨h.favourites, h.cart, ho⟩⟩

theorem LoggedOut.perform (h : s.LoggedOut) {action : Action} (ha : action.handsOver = false) :
    (s.perform action).shop.LoggedOut := by
  obtain ⟨he, hs⟩ := h
  suffices hp : ∀ {s'}, Performs s action s' → s'.LoggedOut from hp (s.perform_performs action)
  intro s' hp
  cases hp with
  | read _ => exact ⟨he, hs⟩
  | applyFavourites _ | applyDetails _ _ _ | applyCart _ | login _ _ => cases ha
  | resetFavourites => exact ⟨(he.favourites_iff _).mpr ⟨rfl, rfl⟩, hs⟩
  | resetCart => exact ⟨(he.cart_iff _).mpr rfl, hs⟩
  | resetOrders => exact ⟨(he.orders_iff _).mpr ⟨rfl, rfl⟩, hs⟩
  | logout => exact loggedOut_logout s
  | useCatalog _ => exact ⟨⟨he.favourites, he.cart, he.orders⟩, hs⟩
  | clearSession => exact ⟨⟨he.favourites, he.cart, he.orders⟩, rfl⟩

namespace Traffic

def Event.handsOver : Event → Bool
  | .act action => action.handsOver
  | _ => false

/-- The landing fills a store that is empty. -/
def Brings (t : Traffic) : Landing → Prop
  | .favourites place reply =>
    ∃ a ∈ t.favourites.calls.awaited[place]?, Favourites.Brings a.point reply
  | .turn _ => False
  | .cart place reply =>
    ∃ a ∈ t.cart.awaited[place]?, Cart.Brings t.shop.cartContext t.shop.cart a.point reply
  | .orders place reply => ∃ a ∈ t.orders.awaited[place]?, Orders.Brings a.point reply

variable {t : Traffic}

theorem isEmpty_land_iff (h : t.shop.LoggedOut) (landing : Landing) :
    (t.land landing).shop.IsEmpty ↔ ¬t.Brings landing := by
  have idle : ∀ {α : Type} {P : α → Prop} {x : Option α}, x = none → ¬∃ a ∈ x, P a := by
    rintro α P _ rfl ⟨a, ha, _⟩
    cases ha
  cases landing with
  | favourites place reply =>
    simp only [land, Brings]
    split
    · next a ha =>
      rw [ha, h.anonymous]
      refine (h.empty.favourites_iff _).trans ?_
      rw [Favourites.isEmpty_resume_iff h.empty.favourites]
      simp
    · next ha => exact iff_of_true h.empty (idle ha)
  | turn place =>
    simp only [land, Brings]
    refine iff_of_true ?_ not_false
    split
    · next w _ =>
      exact (h.empty.favourites_iff _).mpr ((Favourites.isEmpty_wake _ _).mpr h.empty.favourites)
    · exact h.empty
  | cart place reply =>
    simp only [land, Brings]
    split
    · next a ha =>
      rw [ha]
      refine (h.empty.cart_iff _).trans ?_
      rw [Cart.lines_resume_iff h.anonymous h.empty.cart]
      simp
    · next ha => exact iff_of_true h.empty (idle ha)
  | orders place reply =>
    simp only [land, Brings]
    split
    · next a ha =>
      rw [ha]
      refine (h.empty.orders_iff _).trans ?_
      rw [Orders.isEmpty_resume_iff h.empty.orders]
      simp
    · next ha => exact iff_of_true h.empty (idle ha)

theorem isEmpty_begin (h : t.shop.LoggedOut) (operation : Operation) :
    (t.begin operation).shop.IsEmpty := by
  cases operation with
  | favourites request =>
    refine (h.empty.favourites_iff _).mpr ?_
    rw [h.anonymous]
    exact Favourites.isEmpty_begin h.empty.favourites request
  | cart request =>
    exact (h.empty.cart_iff _).mpr (Cart.lines_begin h.anonymous h.empty.cart request)
  | refreshOrders =>
    refine (h.empty.orders_iff _).mpr ?_
    rw [h.anonymous]
    exact Orders.isEmpty_begin _

theorem isEmpty_handle_iff (h : t.shop.LoggedOut) {e : Event} (he : e.handsOver = false) :
    (t.handle e).shop.IsEmpty ↔ ∀ landing, e = .land landing → ¬t.Brings landing := by
  cases e with
  | act action => exact iff_of_true (h.perform he).empty nofun
  | begin operation => exact iff_of_true (isEmpty_begin h operation) nofun
  | land landing =>
    refine (isEmpty_land_iff h landing).trans ⟨fun hb l hl => ?_, fun hb => hb landing rfl⟩
    cases hl
    exact hb

theorem anonymous_handle (h : t.shop.LoggedOut) {e : Event} (he : e.handsOver = false) :
    (t.handle e).shop.isAuthenticated = false := by
  cases e with
  | act action => exact (h.perform he).anonymous
  | begin operation =>
    rw [handle, isAuthenticated, session_begin]
    exact h.anonymous
  | land landing =>
    rw [handle, isAuthenticated, session_land]
    exact h.anonymous

/-- A shop stays logged out as long as no event fills it. -/
theorem loggedOut_run (h : t.shop.LoggedOut) {events : List Event}
    (ho : ∀ e ∈ events, e.handsOver = false)
    (hstay : ∀ past e, past ++ [e] <+: events → (t.run past).shop.LoggedOut →
      (t.run (past ++ [e])).shop.IsEmpty)
    (past : List Event) (hp : past <+: events) : (t.run past).shop.LoggedOut := by
  -- from the right: the last event meets a shop that has been logged out until then
  induction past using List.reverseRecOn with
  | nil => exact h
  | append_singleton past e ih =>
    have hlast := ih ((List.prefix_append past [e]).trans hp)
    refine ⟨hstay past e hp hlast, ?_⟩
    rw [run_concat]
    exact anonymous_handle hlast (ho e (hp.subset (List.mem_append_right past List.mem_cons_self)))

/-- **What a logout is worth.** Let any operations be under way when a logout happens, and let
replies land afterwards in any order, while the caller neither logs in nor hands over anything. The
stores are empty at every later moment if and only if no landing brings anything at its moment. -/
theorem isEmpty_after_logout_iff (t : Traffic) (after : List Event)
    (ho : ∀ e ∈ after, e.handsOver = false) :
    (∀ past, past <+: after → ((t.handle (.act .logout)).run past).shop.IsEmpty) ↔
      ∀ past landing, past ++ [.land landing] <+: after →
        ¬((t.handle (.act .logout)).run past).Brings landing := by
  have h : (t.handle (.act .logout)).shop.LoggedOut := loggedOut_logout t.shop
  have hone : ∀ past e, past ++ [e] <+: after → e.handsOver = false := fun past e hp =>
    ho e (hp.subset (List.mem_append_right past List.mem_cons_self))
  constructor
  · intro hempty past landing hp
    have hpast := loggedOut_run h ho (fun past e hp _ => hempty _ hp) past
      ((List.prefix_append past _).trans hp)
    have hnext := hempty _ hp
    rw [run_concat] at hnext
    exact (isEmpty_handle_iff hpast rfl).mp hnext landing rfl
  · intro hb past hp
    refine (loggedOut_run h ho (fun past e hp hpast => ?_) past hp).empty
    rw [run_concat]
    refine (isEmpty_handle_iff hpast (hone past e hp)).mpr fun landing he => ?_
    subst he
    exact hb past landing hp

/-- A refresh that was under way at the logout and is then refused. -/
theorem isEmpty_after_logout_refused :
    let t := (start ⟨some "t"⟩ .empty Cart.defaultTaxRate).run [.begin (.cart .refresh)]
    let refusal : Event := .land (.cart 0 (.failure ⟨"Unauthorized", some 401, .null⟩))
    (∀ e ∈ [refusal], e.handsOver = false) ∧
      ∀ past, past <+: [refusal] → ((t.handle (.act .logout)).run past).shop.IsEmpty := by
  intro t refusal
  have ho : ∀ e ∈ [refusal], e.handsOver = false := by simp [refusal, Event.handsOver]
  refine ⟨ho, (isEmpty_after_logout_iff t [refusal] ho).mpr fun past landing hp hb => ?_⟩
  cases past with
  | nil =>
    obtain ⟨he, _⟩ := List.cons_prefix_cons.mp hp
    obtain rfl := Event.land.inj he
    obtain ⟨a, ha, hb⟩ := hb
    cases ha
    cases hb
  | cons e past =>
    have hnil := List.prefix_nil.mp (List.cons_prefix_cons.mp hp).2
    exact List.append_ne_nil_of_right_ne_nil past (List.cons_ne_nil _ _) hnil

/-- Loads that were under way at the logout fill all three stores of a shop without a credential. -/
theorem filled_after_logout :
    let s := ((start ⟨some "t"⟩ .empty Cart.defaultTaxRate).run
      [.begin (.favourites .refreshIds), .begin (.cart .refresh), .begin .refreshOrders,
        .act .logout,
        .land (.favourites 0 (.value (.list [.int 7]))),
        .land (.cart 0 (.value (.object [("items", .list [.object
          [("id", .int 1), ("quantity", .int 2), ("sneaker_id", .int 7)]])]))),
        .land (.orders 0 (.value (.list [.object [("id", .int 5), ("status", .text "PAID")]])))]).shop
    s.isAuthenticated = false ∧ s.favourites.ids = [7] ∧
      s.cart.lines = [⟨some (.number 1), 7, 2, .zero⟩] ∧
      s.orders.orders = [⟨.number 5, "PAID", [], .zero, none, ""⟩] := by
  decide +kernel

end Traffic

end Shop

end Shopfront
