import Mathlib.Data.List.Induction
import Shopfront.Orders.Operation
import Shopfront.Proofs.Catalog
import Shopfront.Proofs.Underway

/-! Traffic of the orders store: refreshes begin at any moment, with or without a credential, replies
of any kind come in any order, and the store may be emptied in between. Each refresh keeps its place
and what it has been answered. Main statement: `handle_handles` lists what an event can do, so that
facts on events need no look at the operation. -/

namespace Shopfront.Orders

open Underway (callOf?)

/-- A refresh: the calls that have been answered, and the one that it waits for, unless it has
ended. -/
structure Refresh where
  answered : List (Call × Reply)
  awaited? : Option (Awaited Point)

namespace Refresh

/-- The products of all items, item by item. -/
def itemIds (orders : List Order) : List Int :=
  orders.flatMap fun order => order.items.map (·.product)

/-- The refresh has come to a successful end: it has read the orders from its first reply and, if there
are items in them, the products from the reply to one call for just these. -/
inductive Fetched : Refresh → List Order → Catalog → Prop
  | orders {p orders} : Order.listOf p = .ok orders → itemIds orders = [] →
      Fetched ⟨[(.getOrders, .value p)], none⟩ orders .empty
  | products {p orders ids q products} : Order.listOf p = .ok orders → itemIds orders ≠ [] →
      FirstOccurrences ids (itemIds orders) → products.Indexes (Product.listOf q) →
      Fetched ⟨[(.getOrders, .value p), (.getProductsBatch ids, .value q)], none⟩ orders products

/-- The last call of the refresh has failed. -/
def Failed (r : Refresh) : Prop := ∃ earlier call f, r.answered = earlier ++ [(call, .failure f)]

/-- Where a refresh may stand. -/
inductive Stage : Refresh → Prop
  | asking : Stage ⟨[], some ⟨.getOrders, .loadingOrders⟩⟩
  | enriching {p orders} : Order.listOf p = .ok orders → itemIds orders ≠ [] →
      Stage ⟨[(.getOrders, .value p)],
        some ⟨.getProductsBatch (productIds orders), .loadingProducts orders⟩⟩
  | ended (answered) : Stage ⟨answered, none⟩

variable {r : Refresh} {orders orders' : List Order} {products products' : Catalog}

theorem Fetched.awaited?_eq (h : r.Fetched orders products) : r.awaited? = none := by
  cases h <;> rfl

theorem Fetched.not_failed (h : r.Fetched orders products) : ¬r.Failed := by
  rintro ⟨earlier, call, f, he⟩
  have hlast := congrArg List.getLast? he
  rw [List.getLast?_append_of_ne_nil _ (List.cons_ne_nil _ _)] at hlast
  cases h <;> cases hlast

/-- What a refresh has fetched is settled by what it has been answered. -/
theorem Fetched.eq (h : r.Fetched orders products) (h' : r.Fetched orders' products') :
    orders = orders' ∧ products = products' := by
  cases h with
  | orders hp _ =>
    cases h' with
    | orders hp' _ =>
      cases hp.symm.trans hp'
      exact ⟨rfl, rfl⟩
  | products hp _ _ hq =>
    cases h' with
    | products hp' _ _ hq' =>
      cases hp.symm.trans hp'
      exact ⟨rfl, hq.eq hq'⟩

theorem productIds_eq_nil_iff : productIds orders = [] ↔ itemIds orders = [] := by
  show (itemIds orders).eraseDups = [] ↔ _
  rw [List.eq_nil_iff_forall_not_mem, List.eq_nil_iff_forall_not_mem]
  simp only [List.mem_eraseDups]

end Refresh

/-- What a refresh makes of the store when it goes on: it asks for the products, it puts in place what
it has fetched, or it gives up. -/
inductive GoesOn (o : Orders) (r : Refresh) : Orders → Prop
  | ask : r.awaited? ≠ none → GoesOn o r o
  | fetch {orders products} : r.Fetched orders products →
      GoesOn o r { o with orders, products, loading := false, error := none }
  | giveUp (error) : r.awaited? = none → (∀ orders products, ¬r.Fetched orders products) →
      GoesOn o r { o with loading := false, error }

/-- A refresh with the answer to its call, after the step that it has made on it. -/
def Refresh.next (r : Refresh) (a : Awaited Point) (reply : Reply) (s : Step) : Refresh :=
  ⟨r.answered ++ [(a.call, reply)], callOf? s.progress⟩

open Refresh in
theorem Refresh.Stage.goesOn {r : Refresh} (h : r.Stage) {a : Awaited Point}
    (ha : r.awaited? = some a) (o : Orders) (reply : Reply) :
    let s := resume o a.point reply
    (r.next a reply s).Stage ∧ GoesOn o (r.next a reply s) s.state := by
  intro s
  cases h with
  | asking =>
    cases ha
    cases reply with
    | value p =>
      cases hp : Order.listOf p with
      | error fault =>
        have hs : s = (Step.stop { o with loading := false } fault).after (Order.complaints p) := by
          simp only [s, resume, hp]
        rw [hs]
        refine ⟨.ended _, .giveUp o.error rfl ?_⟩
        rintro orders products ⟨hp', _⟩
        cases hp.symm.trans hp'
      | ok orders =>
        have hs : s = (loadProducts o orders).after (Order.complaints p) := by
          simp only [s, resume, hp]
        rw [hs]
        by_cases hids : itemIds orders = []
        · have hload : loadProducts o orders = apply o orders .empty :=
            if_pos (List.isEmpty_iff.mpr (productIds_eq_nil_iff.mpr hids))
          rw [hload]
          exact ⟨.ended _, .fetch (.orders hp hids)⟩
        · have hload : loadProducts o orders =
              .call o (.getProductsBatch (productIds orders)) (.loadingProducts orders) :=
            if_neg fun he => hids (productIds_eq_nil_iff.mp (List.isEmpty_iff.mp he))
          rw [hload]
          exact ⟨.enriching hp hids, .ask (Option.some_ne_none _)⟩
    | failure f => exact ⟨.ended _, .giveUp _ rfl nofun⟩
    | fault fault => exact ⟨.ended _, .giveUp o.error rfl nofun⟩
  | @enriching p orders hp hids =>
    cases ha
    cases reply with
    | value q =>
      have hbatch : FirstOccurrences (productIds orders) (itemIds orders) :=
        firstOccurrences_eraseDups _
      exact ⟨.ended _, .fetch (.products hp hids hbatch (Catalog.indexes_ofProducts _))⟩
    | failure f => exact ⟨.ended _, .giveUp _ rfl nofun⟩
    | fault fault => exact ⟨.ended _, .giveUp o.error rfl nofun⟩
  | ended answered => cases ha

structure Traffic where
  store : Orders
  /-- The refreshes, in the order in which they have begun. -/
  refreshes : List Refresh

namespace Traffic

/-- What may happen next. A reply answers the call that the refresh at a place waits for. -/
inductive Event where
  | begin (authenticated : Bool)
  | reply (place : Nat) (reply : Reply)
  | reset

/-- A new store, no refresh begun. -/
def start : Traffic := ⟨.empty, []⟩

def begin (t : Traffic) (authenticated : Bool) : Traffic :=
  let s := Orders.begin authenticated t.store
  ⟨s.state, t.refreshes ++ [⟨[], callOf? s.progress⟩]⟩

/-- The refresh at a place goes on from the reply to its call. -/
def goOn (t : Traffic) (place : Nat) (r : Refresh) (a : Awaited Point) (reply : Reply) : Traffic :=
  let s := resume t.store a.point reply
  ⟨s.state, t.refreshes.set place (r.next a reply s)⟩

def handle (t : Traffic) : Event → Traffic
  | .begin authenticated => t.begin authenticated
  | .reply place reply =>
    match t.refreshes[place]? with
    | some r =>
      match r.awaited? with
      | some a => t.goOn place r a reply
      | none => t
    | none => t
  | .reset => { t with store := t.store.reset }

def run (t : Traffic) (events : List Event) : Traffic := events.foldl handle t

theorem run_concat (t : Traffic) (past : List Event) (e : Event) :
    t.run (past ++ [e]) = (t.run past).handle e := List.foldl_append ..

/-- The call that the refresh at a place waits for. -/
def waiting? (t : Traffic) (place : Nat) : Option (Awaited Point) :=
  t.refreshes[place]?.bind (·.awaited?)

/-- The refresh that makes a step with an event, if one does. -/
def mover? (t : Traffic) : Event → Option Nat
  | .begin _ => some t.refreshes.length
  | .reply place _ => (t.waiting? place).map fun _ => place
  | .reset => none

/-- What an event makes of the traffic. -/
inductive Handles (t : Traffic) : Event → Traffic → Prop
  | begin : Handles t (.begin true)
      ⟨{ t.store with loading := true },
        t.refreshes ++ [⟨[], some ⟨.getOrders, .loadingOrders⟩⟩]⟩
  | refuse : Handles t (.begin false) ⟨t.store.reset, t.refreshes ++ [⟨[], none⟩]⟩
  | goOn {place reply r a r' o} : t.refreshes[place]? = some r → r.awaited? = some a → r'.Stage →
      GoesOn t.store r' o → Handles t (.reply place reply) ⟨o, t.refreshes.set place r'⟩
  | miss {place reply} : t.waiting? place = none → Handles t (.reply place reply) t
  | reset : Handles t .reset { t with store := t.store.reset }

/-- All refreshes stand where a refresh may stand. -/
def Staged (t : Traffic) : Prop := ∀ r ∈ t.refreshes, r.Stage

variable {t t' : Traffic} {e : Event}

theorem handle_handles (h : t.Staged) (e : Event) : Handles t e (t.handle e) := by
  cases e with
  | begin authenticated =>
    cases authenticated with
    | true => exact .begin
    | false => exact .refuse
  | reset => exact .reset
  | reply place reply =>
    simp only [handle]
    split
    · next r hr =>
      split
      · next a ha =>
        obtain ⟨hstage, hgoesOn⟩ := (h r (List.mem_of_getElem? hr)).goesOn ha t.store reply
        exact .goOn hr ha hstage hgoesOn
      · next ha => exact .miss (by rw [waiting?, hr, Option.bind_some, ha])
    · next hr => exact .miss (by rw [waiting?, hr, Option.bind_none])

theorem Handles.staged (hh : Handles t e t') (h : t.Staged) : t'.Staged := by
  intro r' hr'
  cases hh with
  | begin =>
    rcases List.mem_append.mp hr' with hr' | hr'
    · exact h r' hr'
    · cases List.mem_singleton.mp hr'
      exact .asking
  | refuse =>
    rcases List.mem_append.mp hr' with hr' | hr'
    · exact h r' hr'
    · cases List.mem_singleton.mp hr'
      exact .ended []
  | goOn _ _ hstage _ =>
    rcases List.mem_or_eq_of_mem_set hr' with hr' | rfl
    · exact h r' hr'
    · exact hstage
  | miss _ | reset => exact h r' hr'

theorem staged_run (events : List Event) : (start.run events).Staged := by
  induction events using List.reverseRecOn with
  | nil => exact fun _ h => nomatch h
  | append_singleton past e ih =>
    rw [run_concat]
    exact (handle_handles ih e).staged ih

theorem run_handles (past : List Event) (e : Event) :
    Handles (start.run past) e (start.run (past ++ [e])) := by
  rw [run_concat]
  exact handle_handles (staged_run past) e

/-- A refresh that has ended stays as it is. -/
theorem Handles.stays (hh : Handles t e t') {place : Nat} {r : Refresh}
    (hr : t.refreshes[place]? = some r) (hend : r.awaited? = none) :
    t'.refreshes[place]? = some r := by
  have hlt : place < t.refreshes.length := (List.getElem?_eq_some_iff.mp hr).1
  cases hh with
  | begin | refuse => rwa [List.getElem?_append_left hlt]
  | miss _ | reset => exact hr
  | @goOn other _ r₁ a _ _ hr₁ ha _ _ =>
    have hne : other ≠ place := by
      rintro rfl
      cases hr.symm.trans hr₁
      cases hend.symm.trans ha
    rwa [List.getElem?_set_ne hne]

theorem stays_run {past events : List Event} (hp : past <+: events) {place : Nat} {r : Refresh}
    (hr : (start.run past).refreshes[place]? = some r) (hend : r.awaited? = none) :
    (start.run events).refreshes[place]? = some r := by
  obtain ⟨later, rfl⟩ := hp
  induction later using List.reverseRecOn with
  | nil => rwa [List.append_nil]
  | append_singleton later e ih =>
    rw [← List.append_assoc]
    exact (run_handles _ e).stays ih hend

end Traffic

end Shopfront.Orders
