import Mathlib.Data.List.Permutation
import Shopfront.Proofs.Shop.Action
import Shopfront.Proofs.Shop.Round

/-! Stores that leave one another alone. What becomes of a store depends on the session, the catalog
and its own past; what other stores do in between is nothing to it. Main statement: if equal calls
get equal answers, a round comes to what loading the stores one after another does, in whatever
order its calls are answered (`stores_independent`). -/

namespace Shopfront

/-- The store that an action is on, if it is on one alone. -/
def Action.store? : Action → Option Shop.Store
  | .applyFavourites _ | .applyDetails .. | .resetFavourites | .isFavourite _ | .favourites =>
    some .favourites
  | .applyCart _ | .resetCart | .lineFor _ | .totalPrice | .taxAmount | .cart => some .cart
  | .resetOrders | .shownOrders | .payableOrders => some .orders
  | .shownLines | .logout | .errors | .useCatalog _ | .drawer | .login _ | .clearSession | .headers
  | .isAuthenticated | .summary => none

/-- A load waits for at most so many answers more, or it has ended. -/
inductive Within {Point Result : Type} (loads : Nat → Awaited Point → Prop) (n : Nat) :
    Underway Point Result → Prop
  | waiting {later a} : loads later a → later < n → Within loads n ⟨[a], []⟩
  | ended (ending) : Within loads n ⟨[], [ending]⟩

theorem Within.awaited_eq_nil {Point Result : Type} {loads : Nat → Awaited Point → Prop}
    {u : Underway Point Result} (h : Within loads 0 u) : u.awaited = [] := by
  cases h with
  | waiting _ hlater => exact absurd hlater (Nat.not_lt_zero _)
  | ended ending => rfl

/-! ## Favourites -/

namespace Favourites

/-- Where the favourites wait while they load, and how many calls may follow. -/
inductive Loads : Nat → Awaited Point → Prop
  | ids : Loads 1 ⟨.getFavourites, .loadingIds .details⟩
  | products (ids) : Loads 0 ⟨.getProductsBatch ids, .loadingDetails ids .nothing⟩

theorem calls_record (u : Underway) (s : Step) :
    (u.record s).calls = (Underway.arrive ⟨u.calls, [], []⟩ s.progress).calls := by
  unfold Underway.record
  cases s.woken <;> cases s.progress <;> rfl

theorem within_loadDetails {n : Nat} (hn : 0 < n) (f : Favourites) (ids : List Int) :
    Within Loads n (Underway.idle.arrive (loadDetails f ids .nothing).progress).calls := by
  unfold loadDetails
  split
  · exact .ended _
  · exact .waiting (.products ids) hn

theorem within_begin (authenticated : Bool) (f : Favourites) :
    Within Loads 2 (Underway.idle.arrive (begin authenticated f .resync).progress).calls := by
  cases authenticated with
  | true => exact .waiting .ids Nat.one_lt_two
  | false => exact within_loadDetails Nat.two_pos f.clear []

theorem Loads.resume {n later : Nat} {a : Awaited Point} (h : Loads later a) (hn : later < n + 1)
    (authenticated : Bool) (f : Favourites) (reply : Reply) :
    Within Loads n
      (Underway.idle.arrive (Favourites.resume authenticated f a.point reply).progress).calls := by
  cases h with
  | ids =>
    cases reply with
    | value p => exact within_loadDetails (Nat.lt_of_succ_lt_succ hn) _ _
    | failure failure => exact within_loadDetails (Nat.lt_of_succ_lt_succ hn) _ _
    | fault fault => exact .ended _
  | products ids => cases reply <;> exact .ended _

end Favourites

/-! ## Cart -/

namespace Cart

/-- Where the cart waits while it loads; no call follows. -/
inductive Loads : Nat → Awaited Point → Prop
  | load : Loads 0 ⟨.getCart, .loading .nothing⟩

theorem within_begin (ctx : Context) (c : Cart) :
    Within Loads 2 (Underway.idle.record (begin ctx c .refresh).progress) := by
  obtain ⟨authenticated, catalog⟩ := ctx
  cases authenticated with
  | true => exact .waiting .load Nat.two_pos
  | false => exact .ended _

theorem Loads.resume {n later : Nat} {a : Awaited Point} (h : Loads later a) (ctx : Context)
    (c : Cart) (reply : Reply) :
    Within Loads n (Underway.idle.record (Cart.resume ctx c a.point reply).progress) := by
  cases h with
  | load => cases reply <;> exact .ended _

end Cart

/-! ## Orders -/

namespace Orders

/-- Where the orders wait while they load, and how many calls may follow. -/
inductive Loads : Nat → Awaited Point → Prop
  | orders : Loads 1 ⟨.getOrders, .loadingOrders⟩
  | products (orders) : Loads 0 ⟨.getProductsBatch (productIds orders), .loadingProducts orders⟩

theorem within_begin (authenticated : Bool) (o : Orders) :
    Within Loads 2 (Underway.idle.record (begin authenticated o).progress) := by
  cases authenticated with
  | true => exact .waiting .orders Nat.one_lt_two
  | false => exact .ended _

theorem Loads.resume {n later : Nat} {a : Awaited Point} (h : Loads later a) (hn : later < n + 1)
    (o : Orders) (reply : Reply) :
    Within Loads n (Underway.idle.record (Orders.resume o a.point reply).progress) := by
  cases h with
  | orders =>
    cases reply with
    | value p =>
      simp only [Orders.resume, Step.progress_after]
      split
      · unfold loadProducts
        split
        · exact .ended _
        · exact .waiting (.products _) (Nat.lt_of_succ_lt_succ hn)
      · exact .ended _
    | failure failure => exact .ended _
    | fault fault => exact .ended _
  | products orders => cases reply <;> exact .ended _

end Orders

namespace Shop

deriving instance DecidableEq for Store

def Operation.store : Operation → Store
  | .favourites _ => .favourites
  | .cart _ => .cart
  | .refreshOrders => .orders

namespace Traffic

def Event.store? : Event → Option Store
  | .act action => action.store?
  | .begin operation => some operation.store
  | .land landing => some landing.store

/-- What all stores see of the shop. -/
def setting (t : Traffic) : Session × Catalog × Decimal :=
  (t.shop.session, t.shop.catalog, t.shop.taxRate)

/-- A store and its operations under way. -/
def Part : Store → Type
  | .favourites => Favourites × Favourites.Underway
  | .cart => Cart × Underway Cart.Point Cart.Result
  | .orders => Orders × Underway Orders.Point (List Order)

def part (t : Traffic) : (store : Store) → Part store
  | .favourites => (t.shop.favourites, t.favourites)
  | .cart => (t.shop.cart, t.cart)
  | .orders => (t.shop.orders, t.orders)

/-- The same as far as the store can tell. -/
structure Alike (store : Store) (t t' : Traffic) : Prop where
  setting : t.setting = t'.setting
  part : t.part store = t'.part store

/-- The calls of a store without an answer yet. -/
def calls (t : Traffic) : Store → List Call
  | .favourites => t.favourites.calls.awaited.map (·.call)
  | .cart => t.cart.awaited.map (·.call)
  | .orders => t.orders.awaited.map (·.call)

/-- What happens while the stores load: the load of a store begins, or its call gets the answer. -/
inductive Move where
  | begin (store : Store)
  | answer (store : Store)
  deriving DecidableEq

def Move.store : Move → Store
  | .begin store => store
  | .answer store => store

/-- The operation that loads a store. -/
def loading : Store → Operation
  | .favourites => .favourites .resync
  | .cart => .cart .refresh
  | .orders => .refreshOrders

def move (reply : Call → Reply) (t : Traffic) : Move → Traffic
  | .begin store => t.begin (loading store)
  | .answer store => t.answer (fun _ => reply) store

def follow (reply : Call → Reply) (t : Traffic) (moves : List Move) : Traffic :=
  moves.foldl (move reply) t

/-- The moves of a store that loads by itself. It makes two calls at most. -/
def loadMoves (store : Store) : List Move := [.begin store, .answer store, .answer store]

/-- The stores load one after another, each from the beginning to the end. -/
def inTurn (s : Shop) (reply : Call → Reply) (order : List Store) : Traffic :=
  order.foldl (fun t store => t.follow reply (loadMoves store)) ⟨s, .idle, .idle, .idle⟩

/-- A store loads by itself and gets so many answers. -/
def solo (s : Shop) (reply : Call → Reply) (store : Store) (answers : Nat) : Traffic :=
  follow reply ⟨s, .idle, .idle, .idle⟩ (.begin store :: List.replicate answers (.answer store))

variable {t t' t'' : Traffic} {store : Store}

theorem Alike.refl (store : Store) (t : Traffic) : Alike store t t := ⟨rfl, rfl⟩

theorem Alike.symm (h : Alike store t t') : Alike store t' t := ⟨h.setting.symm, h.part.symm⟩

theorem Alike.trans (h : Alike store t t') (h' : Alike store t' t'') : Alike store t t'' :=
  ⟨h.setting.trans h'.setting, h.part.trans h'.part⟩

theorem eq_of_alike (h : ∀ store, Alike store t t') : t = t' := by
  obtain ⟨⟨session, catalog, taxRate, f, c, o⟩, uf, uc, uo⟩ := t
  obtain ⟨⟨session', catalog', taxRate', f', c', o'⟩, uf', uc', uo'⟩ := t'
  obtain ⟨hsetting, hf⟩ := h .favourites
  obtain ⟨_, hc⟩ := h .cart
  obtain ⟨_, ho⟩ := h .orders
  cases hsetting
  cases hf
  cases hc
  cases ho
  rfl

theorem Alike.calls_eq (h : Alike store t t') : t.calls store = t'.calls store := by
  have hpart := h.part
  cases store
  · exact congrArg (fun part => part.2.calls.awaited.map (·.call)) hpart
  · exact congrArg (fun part => part.2.awaited.map (·.call)) hpart
  · exact congrArg (fun part => part.2.awaited.map (·.call)) hpart

/-! ## Events of other stores -/

theorem alike_begin {operation : Operation} (h : operation.store ≠ store) (t : Traffic) :
    Alike store (t.begin operation) t := by
  cases operation <;> cases store <;> first | exact absurd rfl h | exact ⟨rfl, rfl⟩

theorem alike_land {landing : Landing} (h : landing.store ≠ store) (t : Traffic) :
    Alike store (t.land landing) t := by
  suffices hl : ∀ {t'}, Lands t landing t' → Alike store t' t from hl (t.land_lands landing)
  intro t' hl
  cases hl <;> cases store <;> first | exact absurd rfl h | exact ⟨rfl, rfl⟩

theorem alike_act {action : Action} {other : Store} (hother : action.store? = some other)
    (h : other ≠ store) (t : Traffic) : Alike store (t.handle (.act action)) t := by
  suffices hp : ∀ {shop}, Performs t.shop action shop → Alike store { t with shop } t from
    hp (t.shop.perform_performs action)
  intro shop hp
  cases hp with
  | read _ => exact .refl store t
  | applyFavourites | applyDetails | resetFavourites | applyCart | resetCart | resetOrders =>
    cases hother
    cases store <;> first | exact absurd rfl h | exact ⟨rfl, rfl⟩
  | logout | useCatalog | login | clearSession => cases hother

/-- What happens to a store changes nothing that another store sees. -/
theorem alike_handle {e : Event} {other : Store} (hother : e.store? = some other)
    (h : other ≠ store) (t : Traffic) : Alike store (t.handle e) t := by
  cases e with
  | act action => exact alike_act hother h t
  | begin operation =>
    cases hother
    exact alike_begin h t
  | land landing =>
    cases hother
    exact alike_land h t

/-- An answer lands for the store, or none of its calls waits for one. -/
theorem answer_lands (answers : Answers) (t : Traffic) (store : Store) :
    t.answer answers store = t ∨
      ∃ landing, landing.store = store ∧ t.answer answers store = t.land landing := by
  cases store <;> simp only [answer] <;> split
  all_goals first | exact .inr ⟨_, rfl, rfl⟩ | exact .inl rfl

theorem alike_answer (answers : Answers) {other : Store} (h : other ≠ store) (t : Traffic) :
    Alike store (t.answer answers other) t := by
  obtain hnone | ⟨landing, rfl, hlands⟩ := t.answer_lands answers other
  · rw [hnone]
    exact .refl store t
  · rw [hlands]
    exact alike_land h t

/-! ## Events of the store itself -/

theorem Alike.begin (h : Alike store t t') {operation : Operation}
    (hstore : operation.store = store) :
    Alike store (t.begin operation) (t'.begin operation) := by
  obtain ⟨⟨session, catalog, taxRate, f, c, o⟩, uf, uc, uo⟩ := t
  obtain ⟨⟨session', catalog', taxRate', f', c', o'⟩, uf', uc', uo'⟩ := t'
  obtain ⟨hsetting, hpart⟩ := h
  cases hsetting
  cases operation <;> cases hstore <;> cases hpart <;> exact ⟨rfl, rfl⟩

theorem Alike.answer (h : Alike store t t') (answers : Answers) :
    Alike store (t.answer answers store) (t'.answer answers store) := by
  obtain ⟨⟨session, catalog, taxRate, f, c, o⟩, ⟨⟨fcalls, _⟩, _, _⟩, ⟨ccalls, _⟩, ocalls, _⟩ := t
  obtain ⟨⟨session', catalog', taxRate', f', c', o'⟩, uf', uc', uo'⟩ := t'
  obtain ⟨hsetting, hpart⟩ := h
  cases hsetting
  cases store <;> cases hpart
  · cases fcalls <;> exact ⟨rfl, rfl⟩
  · cases ccalls <;> exact ⟨rfl, rfl⟩
  · cases ocalls <;> exact ⟨rfl, rfl⟩

/-! ## Loads -/

variable {reply : Call → Reply} {m : Move}

theorem store_loading (store : Store) : (loading store).store = store := by cases store <;> rfl

theorem alike_move (h : m.store ≠ store) (reply : Call → Reply) (t : Traffic) :
    Alike store (t.move reply m) t := by
  cases m with
  | begin other => exact alike_begin (by rwa [store_loading]) t
  | answer other => exact alike_answer (fun _ => reply) h t

theorem Alike.move (h : Alike store t t') (hm : m.store = store) (reply : Call → Reply) :
    Alike store (t.move reply m) (t'.move reply m) := by
  subst hm
  cases m with
  | begin store => exact h.begin (store_loading store)
  | answer store => exact h.answer fun _ => reply

/-- A store comes to what its own moves come to. -/
theorem alike_follow (reply : Call → Reply) (moves : List Move) (t : Traffic) (store : Store) :
    Alike store (t.follow reply moves) (t.follow reply (moves.filter (·.store = store))) := by
  suffices hf : ∀ t', Alike store t t' →
      Alike store (t.follow reply moves) (t'.follow reply (moves.filter (·.store = store))) from
    hf t (.refl store t)
  -- the run without the others' moves stays alike while theirs are made
  induction moves generalizing t with
  | nil => exact fun _ h => h
  | cons m moves ih =>
    intro t' h
    by_cases hm : m.store = store
    · rw [List.filter_cons_of_pos (by simpa using hm)]
      exact ih _ _ (h.move hm reply)
    · rw [List.filter_cons_of_neg (by simpa using hm)]
      exact ih _ _ ((alike_move hm reply t).trans h)

theorem solo_succ (s : Shop) (reply : Call → Reply) (store : Store) (n : Nat) :
    solo s reply store (n + 1) = (solo s reply store n).answer (fun _ => reply) store := by
  rw [solo, List.replicate_succ', ← List.cons_append, follow, List.foldl_concat]
  rfl

theorem alike_solo {moves : List Move} {n : Nat}
    (h : moves.filter (·.store = store) = .begin store :: List.replicate n (.answer store))
    (s : Shop) (reply : Call → Reply) :
    Alike store (follow reply ⟨s, .idle, .idle, .idle⟩ moves) (solo s reply store n) := by
  rw [solo, ← h]
  exact alike_follow reply moves _ store

theorem alike_round (s : Shop) (reply : Call → Reply) (schedule : List Store) (store : Store) :
    Alike store (round s (fun _ => reply) schedule)
      (solo s reply store (schedule.count store)) := by
  let begins : List Move := [.begin .favourites, .begin .cart, .begin .orders]
  have hround : round s (fun _ => reply) schedule =
      follow reply ⟨s, .idle, .idle, .idle⟩ (begins ++ schedule.map .answer) := by
    rw [follow, List.foldl_append, List.foldl_map]
    rfl
  have hbegins : begins.filter (·.store = store) = [.begin store] := by
    cases store <;> rfl
  have hanswers : (schedule.map Move.answer).filter (·.store = store) =
      List.replicate (schedule.count store) (.answer store) := by
    rw [List.filter_map, ← List.map_replicate, ← List.filter_beq]
    congr 1
  rw [hround]
  refine alike_solo ?_ s reply
  rw [List.filter_append, hbegins, hanswers, List.singleton_append]

theorem alike_inTurn (s : Shop) (reply : Call → Reply) {order : List Store}
    (horder : order.Perm [.favourites, .cart, .orders]) (store : Store) :
    Alike store (inTurn s reply order) (solo s reply store 2) := by
  have hinTurn : inTurn s reply order =
      follow reply ⟨s, .idle, .idle, .idle⟩ (order.flatMap loadMoves) := by
    rw [follow, List.foldl_flatMap]
    rfl
  -- in any order each store has its turn once
  have hmoves : ∀ order ∈ [Store.favourites, .cart, .orders].permutations', ∀ store : Store,
      (order.flatMap loadMoves).filter (·.store = store) = loadMoves store := by
    intro order horder store
    cases store <;> revert order <;> decide
  rw [hinTurn]
  exact alike_solo (hmoves order (List.mem_permutations'.mpr horder) store) s reply

/-! ## Ends of loads -/

/-- The load of a store waits for at most so many answers more, or it has ended. -/
def LoadsWithin (n : Nat) (t : Traffic) : Store → Prop
  | .favourites => Within Favourites.Loads n t.favourites.calls
  | .cart => Within Cart.Loads n t.cart
  | .orders => Within Orders.Loads n t.orders

theorem loadsWithin_begin (s : Shop) (reply : Call → Reply) (store : Store) :
    (solo s reply store 0).LoadsWithin 2 store := by
  cases store with
  | favourites =>
    show Within _ _ (Favourites.Underway.idle.record _).calls
    rw [Favourites.calls_record]
    exact Favourites.within_begin s.isAuthenticated s.favourites
  | cart => exact Cart.within_begin s.cartContext s.cart
  | orders => exact Orders.within_begin s.isAuthenticated s.orders

theorem LoadsWithin.answer {n : Nat} (h : t.LoadsWithin (n + 1) store) (answers : Answers) :
    (t.answer answers store).LoadsWithin n store := by
  cases store with
  | favourites =>
    simp only [LoadsWithin] at h ⊢
    generalize hcalls : t.favourites.calls = calls at h
    cases h with
    | waiting hloads hlater =>
      rw [answer_favourites hcalls]
      show Within _ _ (Favourites.Underway.record _ _).calls
      rw [Favourites.calls_record]
      exact hloads.resume hlater _ _ _
    | ended ending =>
      simp only [Traffic.answer, hcalls]
      exact .ended ending
  | cart =>
    simp only [LoadsWithin] at h ⊢
    generalize hcart : t.cart = calls at h
    cases h with
    | waiting hloads _ =>
      rw [answer_cart hcart]
      exact hloads.resume _ _ _
    | ended ending =>
      simp only [Traffic.answer, hcart]
      exact .ended ending
  | orders =>
    simp only [LoadsWithin] at h ⊢
    generalize horders : t.orders = calls at h
    cases h with
    | waiting hloads hlater =>
      rw [answer_orders horders]
      exact hloads.resume hlater _ _
    | ended ending =>
      simp only [Traffic.answer, horders]
      exact .ended ending

theorem LoadsWithin.calls_eq_nil (h : t.LoadsWithin 0 store) : t.calls store = [] := by
  cases store <;> exact List.map_eq_nil_iff.mpr (Within.awaited_eq_nil h)

theorem answer_of_calls_nil (h : t.calls store = []) (answers : Answers) :
    t.answer answers store = t := by
  cases store
  all_goals
    have hnone := List.map_eq_nil_iff.mp h
    simp only [answer, hnone]

theorem calls_solo_two (s : Shop) (reply : Call → Reply) (store : Store) :
    (solo s reply store 2).calls store = [] := by
  have hbegin := loadsWithin_begin s reply store
  have hone : (solo s reply store 1).LoadsWithin 1 store := by
    rw [solo_succ]
    exact hbegin.answer _
  have htwo : (solo s reply store 2).LoadsWithin 0 store := by
    rw [solo_succ]
    exact hone.answer _
  exact htwo.calls_eq_nil

theorem solo_of_calls_nil {s : Shop} {n k : Nat} (h : (solo s reply store n).calls store = [])
    (hk : n ≤ k) : solo s reply store k = solo s reply store n := by
  induction k, hk using Nat.le_induction with
  | base => rfl
  | succ k _ ih => rw [solo_succ, ih, answer_of_calls_nil h]

/-- Where a load has ended, its answers have been enough. -/
theorem solo_eq_two {s : Shop} {n : Nat} (h : (solo s reply store n).calls store = []) :
    solo s reply store n = solo s reply store 2 := by
  obtain hn | hn := Nat.le_total n 2
  · exact (solo_of_calls_nil h hn).symm
  · exact solo_of_calls_nil (calls_solo_two s reply store) hn

/-- **The stores are independent.** Let equal calls get equal answers, and let a shop in any state,
with or without a credential, begin a round. When no call waits any more, in whatever order the
answers came and even if a payload that cannot be read stopped a load, the shop is what loading the
stores one after another makes of it, in any order; and two answers for each store are enough. At no
time does what happens to one store change the session, the catalog, the tax rate or another store,
the operations of the other under way included. -/
theorem stores_independent (s : Shop) (reply : Call → Reply) :
    (∀ schedule order, order.Perm [.favourites, .cart, .orders] →
      (∀ store, (round s (fun _ => reply) schedule).calls store = []) →
        round s (fun _ => reply) schedule = inTurn s reply order) ∧
      (∀ schedule store, 2 ≤ schedule.count store →
        (round s (fun _ => reply) schedule).calls store = []) ∧
      (∀ order store, order.Perm [.favourites, .cart, .orders] →
        (inTurn s reply order).calls store = []) ∧
      ∀ (t : Traffic) (e : Event) (store other : Store), e.store? = some other → other ≠ store →
        (t.handle e).setting = t.setting ∧ (t.handle e).part store = t.part store := by
  refine ⟨?_, ?_, ?_, ?_⟩
  · intro schedule order horder hcalls
    refine eq_of_alike fun store => ?_
    have hround := alike_round s reply schedule store
    have hend : (solo s reply store (schedule.count store)).calls store = [] :=
      hround.calls_eq.symm.trans (hcalls store)
    rw [solo_eq_two hend] at hround
    exact hround.trans (alike_inTurn s reply horder store).symm
  · intro schedule store hcount
    rw [(alike_round s reply schedule store).calls_eq,
      solo_of_calls_nil (calls_solo_two s reply store) hcount]
    exact calls_solo_two s reply store
  · intro order store horder
    rw [(alike_inTurn s reply horder store).calls_eq]
    exact calls_solo_two s reply store
  · intro t e store other hother hne
    have halike := alike_handle hother hne t
    exact ⟨halike.setting, halike.part⟩

/-- The orders are answered first, and the cart cannot be loaded. -/
theorem stores_independent_orders_first :
    let reply : Call → Reply := fun
      | .getFavourites => .value (.list [.int 7])
      | .getProductsBatch _ => .value (.list [.object [("id", .int 7), ("price", .int 10)]])
      | .getOrders => .value (.list [.object [("id", .int 1), ("items", .list
          [.object [("sneaker_id", .int 7)]])]])
      | _ => .failure ⟨"down", some 503, .null⟩
    let s := ofSession ⟨some "t"⟩ .empty Cart.defaultTaxRate
    let schedule : List Store := [.orders, .favourites, .orders, .cart, .favourites]
    let order : List Store := [.orders, .cart, .favourites]
    let t := round s (fun _ => reply) schedule
    let again : Event := .begin (.cart .refresh)
    order.Perm [.favourites, .cart, .orders] ∧ (∀ store, t.calls store = []) ∧
      t = inTurn s reply order ∧ t.shop.favourites.products.length = 1 ∧
      t.shop.orders.products.size = 1 ∧ t.shop.cart.error.isSome = true ∧
      again.store? = some .cart ∧ (t.handle again).part .orders = t.part .orders := by
  intro reply s schedule order t again
  have horder : order.Perm [.favourites, .cart, .orders] := by decide
  have hcalls : ∀ store, t.calls store = [] := by
    intro store
    cases store <;> decide +kernel
  obtain ⟨hround, _, _, hframe⟩ := stores_independent s reply
  have hshop : t.shop.favourites.products.length = 1 ∧ t.shop.orders.products.size = 1 ∧
      t.shop.cart.error.isSome = true := by
    decide +kernel
  obtain ⟨hfavourites, horders, hcart⟩ := hshop
  exact ⟨horder, hcalls, hround schedule order horder hcalls, hfavourites, horders, hcart, rfl,
    (hframe t again .orders .cart rfl (by decide)).2⟩

end Traffic

end Shop

end Shopfront
