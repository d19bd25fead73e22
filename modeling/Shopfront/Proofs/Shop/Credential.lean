import Mathlib.Data.List.Induction
import Shopfront.Proofs.Cart.Credential
import Shopfront.Proofs.Shop.Toggles

/-! The credential and the private calls. Every request is refused without a credential before it
calls the backend, but an operation under way goes on when the credential is taken away. Main
statements: the credential gates every private call exactly as long as no toggle gets its turn and no
change of the cart goes on without it (`gated_iff`); so it does if it is only taken away when no
toggle and no operation of the cart is under way (`gated_of_quiet`). -/

namespace Shopfront

open Underway (callOf?)

namespace Favourites

variable {f : Favourites} {s : Step}

theorem Sends.isPublic_eq_false {turn : Turn} (h : Sends f turn s) :
    ∃ a, s.progress.awaited? = some a ∧ a.call.endpoint.isPublic = false := by
  induction h with
  | remove _ => exact ⟨_, rfl, rfl⟩
  | add _ => exact ⟨_, rfl, rfl⟩
  | after _ _ ih => exact ih

theorem Continues.isPublic {toggle? : Option (Turn × Outcome)} (h : Continues false f toggle? s) :
    ∀ a, s.progress.awaited? = some a → a.call.endpoint.isPublic = true := by
  induction h with
  | finish _ _ => exact fun _ ha => by cases ha
  | leave _ _ _ => exact fun _ ha => by cases ha
  | loadIds _ _ hauth => cases hauth
  | loadDetails _ _ _ =>
    intro a ha
    cases ha
    rfl
  | clear _ _ ih => exact ih
  | noDetails _ ih => exact ih
  | after _ _ ih => exact ih

theorem Begins.isPublic {request : Request} (h : Begins false f request s) :
    ∀ a, s.progress.awaited? = some a → a.call.endpoint.isPublic = true := by
  induction h with
  | send hauth _ _ _ => cases hauth
  | queue hauth _ _ => cases hauth
  | refuse _ => exact fun _ ha => by cases ha
  | load _ hcont => exact hcont.isPublic
  | stop _ _ => exact fun _ ha => by cases ha
  | after _ _ ih => exact ih

theorem Resumes.isPublic {point : Point} {reply : Reply} (h : Resumes false f point reply s) :
    ∀ a, s.progress.awaited? = some a → a.call.endpoint.isPublic = true := by
  induction h with
  | goOn hcont => exact hcont.isPublic
  | fail _ _ => exact fun _ ha => by cases ha
  | abandon _ _ _ => exact fun _ ha => by cases ha
  | stop _ _ _ => exact fun _ ha => by cases ha
  | after _ _ ih => exact ih

end Favourites

theorem Orders.isPublic_resume (o : Orders) (point : Orders.Point) (reply : Reply) :
    ∀ a, callOf? (Orders.resume o point reply).progress = some a →
      a.call.endpoint.isPublic = true := by
  have loadProducts_public : ∀ (orders : List Order) (a),
      callOf? (Orders.loadProducts o orders).progress = some a →
        a.call.endpoint.isPublic = true := by
    intro orders a ha
    unfold loadProducts at ha
    split at ha
    · cases ha
    · cases ha
      rfl
  intro a ha
  cases reply with
  | value p =>
    cases point with
    | loadingOrders =>
      simp only [resume, Step.progress_after] at ha
      split at ha
      · exact loadProducts_public _ a ha
      · cases ha
    | loadingProducts orders => cases ha
  | failure failure => cases point <;> cases ha
  | fault fault => cases point <;> cases ha

namespace Shop.Traffic

/-- The calls without an answer yet. -/
def outstanding (t : Traffic) : List Call :=
  t.favourites.calls.awaited.map (·.call) ++ t.cart.awaited.map (·.call) ++
    t.orders.awaited.map (·.call)

/-- The call that an event makes a store issue. -/
def issued? (t : Traffic) : Event → Option Call
  | .act _ => none
  | .begin (.favourites request) =>
    (Favourites.begin t.shop.isAuthenticated t.shop.favourites
      request).progress.awaited?.map (·.call)
  | .begin (.cart request) =>
    (callOf? (Cart.begin t.shop.cartContext t.shop.cart request).progress).map (·.call)
  | .begin .refreshOrders =>
    (callOf? (Orders.begin t.shop.isAuthenticated t.shop.orders).progress).map (·.call)
  | .land (.favourites place reply) =>
    t.favourites.calls.awaited[place]?.bind fun a =>
      (Favourites.resume t.shop.isAuthenticated t.shop.favourites a.point
        reply).progress.awaited?.map (·.call)
  | .land (.turn place) =>
    t.favourites.woken[place]?.bind fun w =>
      (Favourites.wake t.shop.favourites w.turn w.ticket).progress.awaited?.map (·.call)
  | .land (.cart place reply) =>
    t.cart.awaited[place]?.bind fun a =>
      (callOf? (Cart.resume t.shop.cartContext t.shop.cart a.point reply).progress).map (·.call)
  | .land (.orders place reply) =>
    t.orders.awaited[place]?.bind fun a =>
      (callOf? (Orders.resume t.shop.orders a.point reply).progress).map (·.call)

/-- The call that an event makes a store issue is the one that comes to those outstanding. -/
theorem outstanding_handle (t : Traffic) (e : Event) :
    ∃ kept, kept.Sublist t.outstanding ∧
      (t.handle e).outstanding.Perm (kept ++ (t.issued? e).toList) := by
  have last : ∀ calls new rest : List Call,
      ((calls ++ new) ++ rest).Perm ((calls ++ rest) ++ new) := by
    intro calls new rest
    rw [List.append_assoc, List.append_assoc]
    exact List.perm_append_comm.append_left calls
  -- each store has its place in the list, and its new call is at the end of that
  have favouritesStep : ∀ (t : Traffic) (s : Favourites.Step),
      (t.favouritesStep s).outstanding.Perm
        (t.outstanding ++ (s.progress.awaited?.map (·.call)).toList) := by
    intro t s
    simp only [outstanding, Traffic.favouritesStep, Favourites.Underway.awaited_record,
      List.map_append, Option.toList_map]
    exact ((last _ _ _).append_right _).trans (last _ _ _)
  have cartStep : ∀ (t : Traffic) (s : Cart.Step),
      (t.cartStep s).outstanding.Perm
        (t.outstanding ++ ((callOf? s.progress).map (·.call)).toList) := by
    intro t s
    simp only [outstanding, Traffic.cartStep, Underway.awaited_record, List.map_append,
      Option.toList_map, ← List.append_assoc]
    exact last _ _ _
  have ordersStep : ∀ (t : Traffic) (s : Orders.Step),
      (t.ordersStep s).outstanding.Perm
        (t.outstanding ++ ((callOf? s.progress).map (·.call)).toList) := by
    intro t s
    simp only [outstanding, Traffic.ordersStep, Underway.awaited_record, List.map_append,
      Option.toList_map, ← List.append_assoc]
    exact List.Perm.refl _
  have idle : (t.handle e).outstanding = t.outstanding → t.issued? e = none →
      ∃ kept, kept.Sublist t.outstanding ∧
        (t.handle e).outstanding.Perm (kept ++ (t.issued? e).toList) := by
    intro hsame hnone
    refine ⟨_, List.Sublist.refl _, ?_⟩
    rw [hsame, hnone, Option.toList_none, List.append_nil]
  cases e with
  | act action => exact idle rfl rfl
  | begin operation =>
    cases operation with
    | favourites request => exact ⟨_, List.Sublist.refl _, favouritesStep _ _⟩
    | cart request => exact ⟨_, List.Sublist.refl _, cartStep _ _⟩
    | refreshOrders => exact ⟨_, List.Sublist.refl _, ordersStep _ _⟩
  | land landing =>
    cases landing with
    | favourites place reply =>
      cases ha : t.favourites.calls.awaited[place]? with
      | none => exact idle (by simp [handle, land, ha]) (by simp [issued?, ha])
      | some a =>
        simp only [handle, land, issued?, ha]
        refine ⟨_, ?_, favouritesStep _ _⟩
        exact (((List.eraseIdx_sublist _ _).map _).append_right _).append_right _
    | turn place =>
      cases hw : t.favourites.woken[place]? with
      | none => exact idle (by simp [handle, land, hw]) (by simp [issued?, hw])
      | some w =>
        simp only [handle, land, issued?, hw]
        exact ⟨_, List.Sublist.refl _, favouritesStep _ _⟩
    | cart place reply =>
      cases ha : t.cart.awaited[place]? with
      | none => exact idle (by simp [handle, land, ha]) (by simp [issued?, ha])
      | some a =>
        simp only [handle, land, issued?, ha]
        refine ⟨_, ?_, cartStep _ _⟩
        exact (((List.eraseIdx_sublist _ _).map _).append_left _).append_right _
    | orders place reply =>
      cases ha : t.orders.awaited[place]? with
      | none => exact idle (by simp [handle, land, ha]) (by simp [issued?, ha])
      | some a =>
        simp only [handle, land, issued?, ha]
        refine ⟨_, ?_, ordersStep _ _⟩
        exact ((List.eraseIdx_sublist _ _).map _).append_left _

/-- A private call is only issued with a credential. -/
def Gated (t : Traffic) (e : Event) : Prop :=
  ∀ call, t.issued? e = some call → call.endpoint.isPublic = false → t.shop.isAuthenticated = true

/-- An operation goes on with a private call although there is no credential any more. -/
inductive Overreaches (t : Traffic) : Event → Prop
  | turn {place w} : t.shop.isAuthenticated = false → t.favourites.woken[place]? = some w →
      Overreaches t (.land (.turn place))
  | cart {place reply a} : t.shop.isAuthenticated = false → t.cart.awaited[place]? = some a →
      Cart.Overreaches t.shop.cartContext t.shop.cart a.point reply →
      Overreaches t (.land (.cart place reply))

variable {t : Traffic}

theorem gated_of_public {e : Event}
    (h : ∀ call, t.issued? e = some call → call.endpoint.isPublic = true) : t.Gated e := by
  intro call hcall hprivate
  rw [h call hcall] at hprivate
  cases hprivate

theorem gated_begin (h : t.shop.isAuthenticated = false) (operation : Operation) :
    t.Gated (.begin operation) := by
  refine gated_of_public fun call hcall => ?_
  cases operation with
  | favourites request =>
    simp only [issued?, h] at hcall
    obtain ⟨a, ha, rfl⟩ := Option.map_eq_some_iff.mp hcall
    exact (Favourites.begin_begins request).isPublic a ha
  | cart request =>
    simp only [issued?] at hcall
    rw [Cart.callOf?_begin h] at hcall
    cases hcall
  | refreshOrders =>
    simp only [issued?, h] at hcall
    cases hcall

theorem gated_land_iff (h : t.shop.isAuthenticated = false) (landing : Landing) :
    t.Gated (.land landing) ↔ ¬t.Overreaches (.land landing) := by
  cases landing with
  | favourites place reply =>
    refine iff_of_true (gated_of_public fun call hcall => ?_) nofun
    simp only [issued?, h] at hcall
    obtain ⟨a, _, ha⟩ := Option.bind_eq_some_iff.mp hcall
    obtain ⟨b, hb, rfl⟩ := Option.map_eq_some_iff.mp ha
    exact (Favourites.resume_resumes _ _).isPublic b hb
  | turn place =>
    cases hw : t.favourites.woken[place]? with
    | none =>
      refine iff_of_true (gated_of_public fun call hcall => ?_) fun ho => ?_
      · simp [issued?, hw] at hcall
      · cases ho with
        | turn _ hw' => cases hw.symm.trans hw'
    | some w =>
      obtain ⟨a, ha, hprivate⟩ := (Favourites.wake_sends (f := t.shop.favourites) w.turn
        w.ticket).isPublic_eq_false
      refine iff_of_false (fun hg => ?_) (not_not.mpr (.turn h hw))
      have hauth := hg a.call (by simp [issued?, hw, ha]) hprivate
      cases h.symm.trans hauth
  | cart place reply =>
    cases ha : t.cart.awaited[place]? with
    | none =>
      refine iff_of_true (gated_of_public fun call hcall => ?_) fun ho => ?_
      · simp [issued?, ha] at hcall
      · cases ho with
        | cart _ ha' _ => cases ha.symm.trans ha'
    | some a =>
      have hstep := Cart.callOf?_resume_iff (c := t.shop.cart)
        (show t.shop.cartContext.authenticated = false from h) a.point reply
      have hover : Cart.Overreaches t.shop.cartContext t.shop.cart a.point reply ↔
          t.Overreaches (.land (.cart place reply)) := by
        refine ⟨.cart h ha, fun ho => ?_⟩
        cases ho with
        | cart _ ha' ho =>
          cases ha.symm.trans ha'
          exact ho
      rw [← hover, ← hstep]
      cases hb : callOf? (Cart.resume t.shop.cartContext t.shop.cart a.point reply).progress with
      | none =>
        refine iff_of_true (gated_of_public fun call hcall => ?_) rfl
        simp [issued?, ha, hb] at hcall
      | some b =>
        have hprivate := (Cart.resume_resumes a.point reply).isPublic_eq_false b hb
        refine iff_of_false (fun hg => ?_) nofun
        have hauth := hg b.call (by simp [issued?, ha, hb]) hprivate
        cases h.symm.trans hauth
  | orders place reply =>
    refine iff_of_true (gated_of_public fun call hcall => ?_) nofun
    obtain ⟨a, _, ha⟩ := Option.bind_eq_some_iff.mp hcall
    obtain ⟨b, hb, rfl⟩ := Option.map_eq_some_iff.mp ha
    exact Orders.isPublic_resume _ _ _ b hb

theorem gated_handle_iff (t : Traffic) (e : Event) : t.Gated e ↔ ¬t.Overreaches e := by
  cases h : t.shop.isAuthenticated with
  | true =>
    refine iff_of_true (fun _ _ _ => h) fun ho => ?_
    cases ho with
    | turn hauth _ => cases h.symm.trans hauth
    | cart hauth _ _ => cases h.symm.trans hauth
  | false =>
    cases e with
    | act action => exact iff_of_true (gated_of_public fun _ hcall => by cases hcall) nofun
    | begin operation => exact iff_of_true (gated_begin h operation) nofun
    | land landing => exact gated_land_iff h landing

/-- **When the credential gates.** Let operations of all three stores interleave with logins and
logouts in any way, and let replies land in any order. No private call is issued without a credential
if and only if no operation goes on with one although the credential is gone. -/
theorem gated_iff (session : Session) (catalog : Catalog) (taxRate : Decimal)
    (events : List Event) :
    (∀ past e, past ++ [e] <+: events →
        ((start session catalog taxRate).run past).Gated e) ↔
      ∀ past e, past ++ [e] <+: events →
        ¬((start session catalog taxRate).run past).Overreaches e :=
  forall₃_congr fun _ _ _ => gated_handle_iff _ _

/-- A toggle that waited for its turn at the logout asks for its change without a credential. -/
theorem unauthenticated_call :
    let t := (start ⟨some "t"⟩ .empty Cart.defaultTaxRate).run
      [.begin (.favourites (.toggle (.int 7))), .begin (.favourites (.toggle (.int 7))),
        .act .logout, .land (.favourites 0 (.value .null))]
    t.shop.isAuthenticated = false ∧ t.issued? (.land (.turn 0)) = some (.addFavourite 7) ∧
      ¬t.Gated (.land (.turn 0)) := by
  intro t
  have hissued : t.issued? (.land (.turn 0)) = some (.addFavourite 7) := rfl
  refine ⟨rfl, hissued, fun hg => ?_⟩
  have hauth : t.shop.isAuthenticated = true := hg _ hissued rfl
  cases hauth

/-! ## A credential that is taken away in a quiet moment -/

/-- No toggle and no operation of the cart is under way. -/
structure Quiet (t : Traffic) : Prop where
  toggles : t.favourites.turns = []
  cart : t.cart.awaited = []

theorem Quiet.handle (h : t.Quiet) (hauth : t.shop.isAuthenticated = false) (e : Event) :
    (t.handle e).Quiet := by
  refine ⟨List.eq_nil_iff_forall_not_mem.mpr fun turn hturn => ?_, ?_⟩
  · rcases mem_turns_handle hturn with hold | ⟨hnew, _⟩
    · rw [h.toggles] at hold
      cases hold
    · cases hauth.symm.trans hnew
  · cases e with
    | act action => exact h.cart
    | begin operation =>
      cases operation with
      | favourites request | refreshOrders => exact h.cart
      | cart request =>
        show (t.cart.record _).awaited = []
        rw [Underway.awaited_record, Cart.callOf?_begin hauth, h.cart]
        rfl
    | land landing =>
      suffices hl : ∀ {t'}, Lands t landing t' → t'.cart.awaited = [] from hl (t.land_lands landing)
      intro t' hl
      cases hl with
      | cart reply ha =>
        rw [h.cart] at ha
        cases ha
      | missed | favourites | turn | orders => exact h.cart

theorem Quiet.gated (h : t.Quiet) (e : Event) : t.Gated e := by
  refine (gated_handle_iff t e).mpr fun ho => ?_
  cases ho with
  | @turn place w _ hw =>
    have hmem : w.turn ∈ t.favourites.turns := List.mem_append_right _
      (List.mem_map.mpr ⟨w, List.mem_append_left _ (List.mem_of_getElem? hw), rfl⟩)
    rw [h.toggles] at hmem
    cases hmem
  | cart _ ha _ =>
    rw [h.cart] at ha
    cases ha

/-- The credential gates every private call if it is only taken away in a quiet moment. -/
theorem gated_of_quiet (session : Session) (catalog : Catalog) (taxRate : Decimal)
    {events : List Event}
    (h : ∀ past e, past ++ [e] <+: events →
      ((start session catalog taxRate).run past).shop.isAuthenticated = true →
      ((start session catalog taxRate).run (past ++ [e])).shop.isAuthenticated = false →
      ((start session catalog taxRate).run past).Quiet)
    {past : List Event} {e : Event} (hp : past ++ [e] <+: events) :
    ((start session catalog taxRate).run past).Gated e := by
  suffices hquiet : ∀ past, past <+: events →
      ((start session catalog taxRate).run past).shop.isAuthenticated = false →
        ((start session catalog taxRate).run past).Quiet by
    cases hauth : ((start session catalog taxRate).run past).shop.isAuthenticated with
    | true => exact fun _ _ _ => hauth
    | false => exact (hquiet past ((List.prefix_append past [e]).trans hp) hauth).gated e
  intro past hp hauth
  induction past using List.reverseRecOn with
  | nil => exact ⟨rfl, rfl⟩
  | append_singleton past e ih =>
    have hlast := ih ((List.prefix_append past [e]).trans hp)
    have hgone := h past e hp
    rw [run_concat] at hauth hgone ⊢
    cases hbefore : ((start session catalog taxRate).run past).shop.isAuthenticated with
    | true =>
      -- an action took it away, and that leaves what is under way as it is
      have hquiet := hgone hbefore hauth
      cases e with
      | act action => exact ⟨hquiet.toggles, hquiet.cart⟩
      | begin operation =>
        rw [handle, isAuthenticated, session_begin] at hauth
        cases hbefore.symm.trans hauth
      | land landing =>
        rw [handle, isAuthenticated, session_land] at hauth
        cases hbefore.symm.trans hauth
    | false => exact (hlast hbefore).handle hbefore e

end Shop.Traffic

end Shopfront
