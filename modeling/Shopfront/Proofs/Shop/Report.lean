import Shopfront.Proofs.Cart.Report
import Shopfront.Proofs.Favourites.Report
import Shopfront.Proofs.Orders.Report
import Shopfront.Proofs.Shop.Traffic

/-! Failed calls in a shop whose backend answers with values and failures only. Main statement: a
failed call stops no operation, and an operation that ends at one leaves its store with an error that
says something (`failures_reported`). -/

namespace Shopfront.Shop

inductive Store where
  | favourites
  | cart
  | orders

def errorOf (s : Shop) : Store → Option String
  | .favourites => s.favourites.error
  | .cart => s.cart.error
  | .orders => s.orders.error

/-- The store whose operation goes on. -/
def Landing.store : Landing → Store
  | .favourites .. => .favourites
  | .turn _ => .favourites
  | .cart .. => .cart
  | .orders .. => .orders

/-- The reply that lands; a toggle that gets its turn brings none. -/
def Landing.reply? : Landing → Option Reply
  | .favourites _ reply => some reply
  | .turn _ => none
  | .cart _ reply => some reply
  | .orders _ reply => some reply

/-- What stopped an operation, if it was stopped. -/
def stopOf? {Result : Type} : Except Fault Result → Option Fault
  | .ok _ => none
  | .error fault => some fault

/-- Operations were stopped by nothing but values that are no list. -/
def Unstopped {Result : Type} (endings : List (Except Fault Result)) : Prop :=
  ∀ fault, .error fault ∈ endings → ∃ kind, fault = .notIterable kind

theorem unstopped_nil {Result : Type} : Unstopped ([] : List (Except Fault Result)) := by
  intro fault h
  cases h

theorem Unstopped.append {Result : Type} {failed : Bool} {error : Option String}
    {endings : List (Except Fault Result)} {ending? : Option (Except Fault Result)}
    (h : Unstopped endings) (hs : ∀ ending ∈ ending?, Tells failed error ending) :
    Unstopped (endings ++ ending?.toList) := by
  intro fault hmem
  obtain hold | hnew := List.mem_append.mp hmem
  · exact h fault hold
  · obtain ⟨_, hkind⟩ := hs (.error fault) (Option.mem_toList.mp hnew)
    exact hkind

theorem Unstopped.kind {Result : Type} {endings : List (Except Fault Result)} (h : Unstopped endings)
    {fault : Fault} (hf : some fault ∈ endings.map stopOf?) : ∃ kind, fault = .notIterable kind := by
  obtain ⟨ending, hmem, he⟩ := List.mem_map.mp hf
  cases ending with
  | ok result => cases he
  | error cause =>
    cases he
    exact h fault hmem

/-- After a failed call an operation that has ended has reported it. -/
theorem reported_of_longer {Result : Type} {error : Option String}
    {endings : List (Except Fault Result)} {ending? : Option (Except Fault Result)}
    (hs : ∀ ending ∈ ending?, Tells true error ending)
    (h : (endings.map stopOf?).length < ((endings ++ ending?.toList).map stopOf?).length) :
    Reported error := by
  cases ending? with
  | none => simp at h
  | some ending =>
    have htells := hs ending rfl
    cases ending with
    | ok result => exact htells rfl
    | error fault => cases htells.1

namespace Traffic

/-- Whether an event brings a fault for an answer. -/
def Event.isFault : Event → Bool
  | .land landing => landing.reply?.any (·.isFault)
  | _ => false

/-- How the operations of a store have ended so far: for each, what stopped it, if anything did. -/
def endings (t : Traffic) : Store → List (Option Fault)
  | .favourites => t.favourites.calls.endings.map stopOf?
  | .cart => t.cart.endings.map stopOf?
  | .orders => t.orders.endings.map stopOf?

/-- A landing ends the operation that goes on. An operation that goes on waits for nothing but its
next call, so the reply at which it ends answers its last one. -/
def Ends (t : Traffic) (landing : Landing) : Prop :=
  (t.endings landing.store).length < ((t.land landing).endings landing.store).length

instance (t : Traffic) (landing : Landing) : Decidable (t.Ends landing) :=
  inferInstanceAs (Decidable (_ < _))

/-- So far nothing was left unsaid. -/
structure Honest (t : Traffic) : Prop where
  speaks : ∀ a ∈ t.cart.awaited, a.point.Speaks
  favourites : Unstopped t.favourites.calls.endings
  cart : Unstopped t.cart.endings
  orders : Unstopped t.orders.endings

variable {t : Traffic} {failed : Bool}

theorem Honest.cartStep (h : t.Honest) {u : Underway Cart.Point Cart.Result}
    (hspeaks : ∀ a ∈ u.awaited, a.point.Speaks) (hu : u.endings = t.cart.endings) {s : Cart.Step}
    (hs : Cart.Honest failed s) : ({ t with cart := u }.cartStep s).Honest := by
  refine ⟨?_, h.favourites, ?_, h.orders⟩
  · intro a ha
    simp only [Traffic.cartStep, Underway.awaited_record, List.mem_append, Option.mem_toList] at ha
    obtain hold | hnew := ha
    · exact hspeaks a hold
    · exact hs.speaks a hnew
  · show Unstopped (u.record s.progress).endings
    rw [Underway.endings_record, hu]
    exact h.cart.append hs.tells

theorem Honest.favouritesStep (h : t.Honest) {u : Favourites.Underway}
    (hu : u.calls.endings = t.favourites.calls.endings) {s : Favourites.Step}
    (hs : Favourites.Honest failed s) : ({ t with favourites := u }.favouritesStep s).Honest := by
  refine ⟨h.speaks, ?_, h.cart, h.orders⟩
  show Unstopped (u.record s).calls.endings
  rw [Favourites.Underway.endings_record, hu]
  exact h.favourites.append hs

theorem Honest.ordersStep (h : t.Honest) {u : Underway Orders.Point (List Order)}
    (hu : u.endings = t.orders.endings) {s : Orders.Step} (hs : Orders.Honest failed s) :
    ({ t with orders := u }.ordersStep s).Honest := by
  refine ⟨h.speaks, h.favourites, h.cart, ?_⟩
  show Unstopped (u.record s.progress).endings
  rw [Underway.endings_record, hu]
  exact h.orders.append hs

theorem Honest.begin (h : t.Honest) (operation : Operation) : (t.begin operation).Honest := by
  cases operation with
  | favourites request => exact h.favouritesStep rfl (Favourites.begin_honest _ _ request)
  | cart request => exact h.cartStep h.speaks rfl (Cart.begin_honest _ _ request)
  | refreshOrders => exact h.ordersStep rfl (Orders.begin_honest _ _)

theorem Honest.land (h : t.Honest) {landing : Landing}
    (hfault : landing.reply?.any (·.isFault) = false) : (t.land landing).Honest := by
  suffices hl : ∀ {t'}, Lands t landing t' → t'.Honest from hl (t.land_lands landing)
  intro t' hl
  cases hl with
  | missed _ => exact h
  | @favourites place a reply _ =>
    exact h.favouritesStep (u := t.favourites.takeCall place) rfl
      (Favourites.resume_honest _ _ a.point reply hfault)
  | @turn place w _ =>
    exact h.favouritesStep (u := t.favourites.takeWoken place) rfl
      (Favourites.wake_honest _ w.turn w.ticket)
  | @cart place a reply ha =>
    have hmem := Underway.mem_awaited_take ha
    exact h.cartStep (u := t.cart.take place)
      (fun b hb => h.speaks b ((hmem b).mpr (.inr hb))) rfl
      (Cart.resume_honest (h.speaks a ((hmem a).mpr (.inl rfl))) reply hfault)
  | @orders place a reply _ =>
    exact h.ordersStep (u := t.orders.take place) rfl
      (Orders.resume_honest _ a.point reply hfault)

theorem Honest.handle (h : t.Honest) {e : Event} (he : e.isFault = false) :
    (t.handle e).Honest := by
  cases e with
  | act action => exact ⟨h.speaks, h.favourites, h.cart, h.orders⟩
  | begin operation => exact h.begin operation
  | land landing => exact h.land he

theorem honest_run (session : Session) (catalog : Catalog) (taxRate : Decimal)
    {events : List Event} (h : ∀ e ∈ events, e.isFault = false) :
    ((start session catalog taxRate).run events).Honest := by
  refine run_keeps ?_ fun ht e he => ht.handle (h e he)
  exact ⟨fun a ha => (by cases ha), unstopped_nil, unstopped_nil, unstopped_nil⟩

/-- An operation that ends at a failed call has reported it. -/
theorem Honest.reported (h : t.Honest) {landing : Landing} {f : Failure}
    (hf : landing.reply? = some (.failure f)) (hends : t.Ends landing) :
    Reported ((t.land landing).shop.errorOf landing.store) := by
  suffices hl : ∀ {t'}, Lands t landing t' →
      (t.endings landing.store).length < (t'.endings landing.store).length →
      Reported (t'.shop.errorOf landing.store) from hl (t.land_lands landing) hends
  intro t' hl hlonger
  cases hl with
  | missed _ => exact absurd hlonger (Nat.lt_irrefl _)
  | turn _ => cases hf
  | @favourites place a reply _ =>
    cases hf
    simp only [endings, Landing.store, Traffic.favouritesStep,
      Favourites.Underway.endings_record] at hlonger
    exact reported_of_longer (Favourites.resume_honest _ _ a.point (.failure f) rfl) hlonger
  | @cart place a reply ha =>
    cases hf
    have hspeaks := h.speaks a ((Underway.mem_awaited_take ha a).mpr (.inl rfl))
    simp only [endings, Landing.store, Traffic.cartStep, Underway.endings_record] at hlonger
    exact reported_of_longer (Cart.resume_honest hspeaks (.failure f) rfl).tells hlonger
  | @orders place a reply _ =>
    cases hf
    simp only [endings, Landing.store, Traffic.ordersStep, Underway.endings_record] at hlonger
    exact reported_of_longer (Orders.resume_honest _ a.point (.failure f) rfl) hlonger

/-- **Failed calls are reported.** Let operations of all three stores interleave in any way with one
another and with what the caller does, and let each call be answered by a value or a failure. Then no
operation is stopped by a failed call: only an argument or a payload that is no list stops one. And
where an operation ends with a failed call as its last, its store's error says something. -/
theorem failures_reported (session : Session) (catalog : Catalog) (taxRate : Decimal)
    {events : List Event} (h : ∀ e ∈ events, e.isFault = false) :
    let t := (start session catalog taxRate).run events
    (∀ store fault, some fault ∈ t.endings store → ∃ kind, fault = .notIterable kind) ∧
      ∀ landing f, landing.reply? = some (.failure f) → t.Ends landing →
        ∃ message, (t.land landing).shop.errorOf landing.store = some message ∧ message ≠ "" := by
  intro t
  have hhonest : t.Honest := honest_run session catalog taxRate h
  refine ⟨?_, fun landing f hf hends => hhonest.reported hf hends⟩
  intro store fault hfault
  cases store with
  | favourites => exact hhonest.favourites.kind hfault
  | cart => exact hhonest.cart.kind hfault
  | orders => exact hhonest.orders.kind hfault

/-- A change fails, and so does the load that follows it. -/
theorem failures_reported_twice :
    let row : Int → Payload := fun id =>
      .object [("id", .int id), ("quantity", .int 1), ("sneaker_id", .int 7)]
    let refusal : Failure := ⟨"refused", some 500, .object [("error", .text " ")]⟩
    let events : List Event :=
      [.act (.applyCart (.list [row 1, row 2])), .begin (.cart (.increase (.int 7))),
        .land (.cart 0 (.failure refusal))]
    let t := (start ⟨some "t"⟩ .empty Cart.defaultTaxRate).run events
    let landing : Landing := .cart 0 (.failure refusal)
    (∀ e ∈ events, e.isFault = false) ∧ t.Ends landing ∧
      ∃ message, (t.land landing).shop.errorOf .cart = some message ∧ message ≠ "" := by
  intro row refusal events t landing
  have hevents : ∀ e ∈ events, e.isFault = false := by decide
  have hends : t.Ends landing := by decide +kernel
  exact ⟨hevents, hends,
    (failures_reported ⟨some "t"⟩ .empty Cart.defaultTaxRate hevents).2 landing refusal rfl hends⟩

end Traffic

end Shopfront.Shop
