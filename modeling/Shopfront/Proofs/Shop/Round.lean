import Shopfront.Agenda.Run
import Shopfront.Proofs.Shop.Report

/-! A round of loading: the favourites, the cart and the orders are loaded again, each store's calls
get their answers in turn, and the stores take turns in any order. Main statement: when the listing of
the favourites fails, what the user is told of it depends on the products that are asked for next
(`error_after_round_iff`). -/

namespace Shopfront

/-- What the user is told at the end: something exactly if there is something to report. -/
structure Told (reports : Prop) (error : Option String) : Prop where
  reported : reports → Reported error
  silent : ¬reports → error = none

variable {reports : Prop} {error : Option String}

theorem told_of_reported (h : reports) (he : Reported error) : Told reports error :=
  ⟨fun _ => he, fun hn => absurd h hn⟩

theorem told_none (h : ¬reports) : Told reports none := ⟨fun hr => absurd hr h, fun _ => rfl⟩

theorem Told.reported_iff (h : Told reports error) : Reported error ↔ reports := by
  refine ⟨fun he => ?_, h.reported⟩
  by_contra hr
  obtain ⟨message, hm, _⟩ := he
  rw [h.silent hr] at hm
  cases hm

theorem Told.ne_none_iff (h : Told reports error) : error ≠ none ↔ reports := by
  constructor
  · intro he
    by_contra hr
    exact he (h.silent hr)
  · intro hr
    obtain ⟨message, hm, _⟩ := h.reported hr
    rw [hm]
    exact Option.some_ne_none message

/-- How the one operation of a store stands in a round: it waits at one of its calls, it has ended
and told what it had to, or it was stopped. -/
inductive Course {Point Result : Type} (reports : Prop) (error : Option String)
    (waits : Awaited Point → Prop) : Underway Point Result → Prop
  | waiting {a} : waits a → Course reports error waits ⟨[a], []⟩
  | ended (result) : Told reports error → Course reports error waits ⟨[], [.ok result]⟩
  | stopped (fault) : Course reports error waits ⟨[], [.error fault]⟩

open Shop (stopOf?) in
theorem Course.told {Point Result : Type} {waits : Awaited Point → Prop}
    {u : Underway Point Result} (h : Course reports error waits u)
    (he : u.endings.map stopOf? = [none]) : Told reports error := by
  cases h with
  | waiting _ => cases he
  | ended _ htold => exact htold
  | stopped fault => cases he

/-- The operation of a store that waits is the only one. -/
theorem Course.eq_or_awaited {Point Result : Type} {waits : Awaited Point → Prop}
    {u : Underway Point Result} (h : Course reports error waits u) :
    (∃ a, waits a ∧ u = ⟨[a], []⟩) ∨ u.awaited = [] := by
  cases h with
  | waiting hwaits => exact .inl ⟨_, hwaits, rfl⟩
  | ended _ _ => exact .inr rfl
  | stopped _ => exact .inr rfl

/-- Where a step of the operation may come to. -/
def Arrives {Point Result : Type} (reports : Prop) (error : Option String)
    (waits : Awaited Point → Prop) : Progress Point Result → Prop
  | .calling call point => waits ⟨call, point⟩
  | .finished _ => Told reports error
  | .stopped _ => True

theorem course_record {Point Result : Type} {waits : Awaited Point → Prop}
    {p : Progress Point Result} (h : Arrives reports error waits p) :
    Course reports error waits (Underway.idle.record p) := by
  cases p with
  | calling call point => exact .waiting h
  | finished result => exact .ended result h
  | stopped fault => exact .stopped fault

/-! ## Favourites -/

namespace Favourites

/-- The error of a listing that fails stays: no products are asked for after it, or that call fails
too. -/
def ListingErrorStays (ids : List Int) (answer : Call → Reply) : Prop :=
  ids = [] ∨ (answer (.getProductsBatch ids)).isFailure = true

/-- Where the favourites wait when all of them are loaded again. -/
inductive Resyncing (ids : List Int) (f : Favourites) : Awaited Point → Prop
  | ids : f.ids = ids → Resyncing ids f ⟨.getFavourites, .loadingIds .details⟩
  | products : ids ≠ [] →
      Resyncing ids f ⟨.getProductsBatch ids, .loadingDetails ids .nothing⟩

/-- Where a step that loads may come to. -/
def Arrives (reports : Prop) (error : Option String) (waits : Awaited Point → Prop) :
    Progress → Prop
  | .calling call point => waits ⟨call, point⟩
  | .queued .. => False
  | .finished _ => Told reports error
  | .stopped _ => True

theorem course_record {waits : Awaited Point → Prop} {u : Underway} (hu : u.calls = .idle)
    {s : Step} (h : Arrives reports error waits s.progress) :
    Course reports error waits (u.record s).calls := by
  have harrive : ∀ u : Underway, u.calls = .idle →
      Course reports error waits (u.arrive s.progress).calls := by
    intro u hu
    cases hp : s.progress with
    | calling call point =>
      rw [hp] at h
      simp only [Underway.arrive, hu]
      exact .waiting h
    | queued turn ticket =>
      rw [hp] at h
      exact h.elim
    | finished result =>
      rw [hp] at h
      simp only [Underway.arrive, hu]
      exact .ended result h
    | stopped fault =>
      simp only [Underway.arrive, hu]
      exact .stopped fault
  unfold Underway.record
  cases s.woken with
  | none => exact harrive u hu
  | some ticket => exact harrive (u.wake ticket) hu

/-- An error stays as it is if there is nothing to ask for. -/
theorem arrives_loadDetails {f : Favourites} (h : Reported f.error) (answer : Call → Reply) :
    let s := loadDetails f f.ids .nothing
    Arrives (ListingErrorStays f.ids answer) s.state.error (Resyncing f.ids s.state) s.progress := by
  intro s
  by_cases hids : f.ids = []
  · have hs : s = .finish { f with products := [] } (.products []) := by
      simp [s, loadDetails, hids, afterDetails]
    rw [hs]
    exact told_of_reported (.inl hids) h
  · have hcall : s.progress = .calling (.getProductsBatch f.ids) (.loadingDetails f.ids .nothing) := by
      simp [s, loadDetails, hids, Step.call]
    rw [hcall]
    exact .products hids

/-- A listing that fails is reported. -/
theorem arrives_listing (authenticated : Bool) (f : Favourites) (answer : Call → Reply)
    (failure : Failure) :
    let s := resume authenticated f (.loadingIds .details) (.failure failure)
    Arrives (ListingErrorStays f.ids answer) s.state.error (Resyncing f.ids s.state) s.progress :=
  arrives_loadDetails (f := releaseIds { f with error := some (idsError failure) })
    (reported_received f (.loadingIds .details) failure) answer

/-- The error after the products have been asked for tells of that call alone. -/
theorem arrives_products {ids : List Int} (hids : ids ≠ []) (authenticated : Bool) (f : Favourites)
    (answer : Call → Reply) :
    let s := resume authenticated f (.loadingDetails ids .nothing) (answer (.getProductsBatch ids))
    Arrives (ListingErrorStays ids answer) s.state.error (Resyncing ids s.state) s.progress := by
  cases hreply : answer (.getProductsBatch ids) with
  | value p =>
    have hsilent : ¬ListingErrorStays ids answer := by
      rintro (hnil | hfailed)
      · exact hids hnil
      · rw [hreply] at hfailed
        cases hfailed
    exact told_none hsilent
  | failure failure =>
    have hstays : ListingErrorStays ids answer := .inr (by rw [hreply]; rfl)
    exact told_of_reported hstays (reported_received f (.loadingDetails ids .nothing) failure)
  | fault fault => trivial

end Favourites

/-! ## Cart -/

namespace Cart

def LoadFails (answer : Call → Reply) : Prop := (answer .getCart).isFailure = true

/-- Where the cart waits when it is loaded again. -/
inductive Refreshing : Awaited Point → Prop
  | load : Refreshing ⟨.getCart, .loading .nothing⟩

theorem arrives_load (ctx : Context) (c : Cart) (answer : Call → Reply) :
    let s := resume ctx c (.loading .nothing) (answer .getCart)
    Arrives (LoadFails answer) s.state.error Refreshing s.progress := by
  unfold LoadFails
  cases answer .getCart with
  | value p => exact told_none Bool.false_ne_true
  | failure f => exact told_of_reported rfl (f.reported_userMessage (by decide))
  | fault fault => trivial

end Cart

/-! ## Orders -/

namespace Orders

/-- Loading the orders fails if the listing does, or the call for the products in them. -/
def LoadFails (answer : Call → Reply) : Prop :=
  (answer .getOrders).isFailure = true ∨
    ∃ p orders, answer .getOrders = .value p ∧ Order.listOf p = .ok orders ∧
      productIds orders ≠ [] ∧ (answer (.getProductsBatch (productIds orders))).isFailure = true

/-- Where the orders wait when they are loaded again. -/
inductive Refreshing (answer : Call → Reply) : Awaited Point → Prop
  | orders : Refreshing answer ⟨.getOrders, .loadingOrders⟩
  | products {p orders} : answer .getOrders = .value p → Order.listOf p = .ok orders →
      productIds orders ≠ [] →
      Refreshing answer ⟨.getProductsBatch (productIds orders), .loadingProducts orders⟩

variable {answer : Call → Reply} {p : Payload} {orders : List Order}

/-- With the orders read, loading fails if and only if the products in them cannot be had. -/
theorem loadFails_iff (hp : answer .getOrders = .value p) (hlist : Order.listOf p = .ok orders) :
    LoadFails answer ↔ productIds orders ≠ [] ∧
      (answer (.getProductsBatch (productIds orders))).isFailure = true := by
  constructor
  · rintro (hfailed | ⟨q, others, hq, hothers, hids, hfailed⟩)
    · rw [hp] at hfailed
      cases hfailed
    · rw [hp] at hq
      cases hq
      rw [hlist] at hothers
      cases hothers
      exact ⟨hids, hfailed⟩
  · rintro ⟨hids, hfailed⟩
    exact .inr ⟨p, orders, hp, hlist, hids, hfailed⟩

theorem arrives_loadProducts (hp : answer .getOrders = .value p)
    (hlist : Order.listOf p = .ok orders) (o : Orders) :
    let s := loadProducts o orders
    Arrives (LoadFails answer) s.state.error (Refreshing answer) s.progress := by
  intro s
  by_cases hids : productIds orders = []
  · have hs : s = apply o orders .empty := by simp [s, loadProducts, hids]
    rw [hs]
    exact told_none fun hfails => ((loadFails_iff hp hlist).mp hfails).1 hids
  · have hs : s = .call o (.getProductsBatch (productIds orders)) (.loadingProducts orders) := by
      simp [s, loadProducts, hids]
    rw [hs]
    exact .products hp hlist hids

theorem arrives_orders (o : Orders) (answer : Call → Reply) :
    let s := resume o .loadingOrders (answer .getOrders)
    Arrives (LoadFails answer) s.state.error (Refreshing answer) s.progress := by
  cases hreply : answer .getOrders with
  | failure f =>
    have hfails : LoadFails answer := .inl (by rw [hreply]; rfl)
    exact told_of_reported hfails (f.reported_userMessage (by decide))
  | fault fault => trivial
  | value p =>
    cases hlist : Order.listOf p with
    | ok orders =>
      simp only [resume, hlist]
      exact arrives_loadProducts hreply hlist o
    | error fault =>
      simp only [resume, hlist]
      trivial

theorem arrives_products (hp : answer .getOrders = .value p) (hlist : Order.listOf p = .ok orders)
    (hids : productIds orders ≠ []) (o : Orders) :
    let s := resume o (.loadingProducts orders) (answer (.getProductsBatch (productIds orders)))
    Arrives (LoadFails answer) s.state.error (Refreshing answer) s.progress := by
  have hiff := loadFails_iff hp hlist
  cases hreply : answer (.getProductsBatch (productIds orders)) with
  | value q =>
    have hsilent : ¬LoadFails answer := by
      intro hfails
      obtain ⟨_, hfailed⟩ := hiff.mp hfails
      rw [hreply] at hfailed
      cases hfailed
    exact told_none hsilent
  | failure f =>
    have hfails : LoadFails answer := hiff.mpr ⟨hids, by rw [hreply]; rfl⟩
    exact told_of_reported hfails (f.reported_userMessage (by decide))
  | fault fault => trivial

end Orders

/-! ## Rounds -/

namespace Shop

theorem errors_eq_nil_iff (s : Shop) : s.errors = [] ↔ ∀ store, ¬Reported (s.errorOf store) := by
  have hnone : ∀ e : Option String, e.filter (· ≠ "") = none ↔ ¬Reported e := by
    intro e
    cases e <;> simp [Reported]
  rw [errors, List.filterMap_eq_nil_iff]
  constructor
  · intro h store
    cases store <;> exact (hnone _).mp (h _ (by simp [errorOf]))
  · intro h e he
    simp only [List.mem_cons, List.not_mem_nil, or_false] at he
    obtain rfl | rfl | rfl := he
    · exact (hnone _).mpr (h .favourites)
    · exact (hnone _).mpr (h .cart)
    · exact (hnone _).mpr (h .orders)

/-- The exit code of a round tells if any store has something to report. -/
theorem exitCode_eq_one_iff (s : Shop) : s.exitCode = 1 ↔ ∃ store, Reported (s.errorOf store) := by
  unfold exitCode
  by_cases h : s.errors = []
  · have hnone := (errors_eq_nil_iff s).mp h
    simp [h, hnone]
  · have hsome : ∃ store, Reported (s.errorOf store) := by
      by_contra hn
      exact h ((errors_eq_nil_iff s).mpr (not_exists.mp hn))
    simp [h, hsome]

/-- What the backend answers to the calls of each store in a round. -/
abbrev Answers := Store → Call → Reply

/-- The operation of a store that serves a request. -/
def operationOf? : Request → Option Operation
  | .favourites request => some (.favourites request)
  | .cart request => some (.cart request)
  | .refreshOrders => some .refreshOrders
  | _ => none

namespace Traffic

/-- The operations of a round have begun, and no others are under way. -/
def openRound (s : Shop) : Traffic :=
  ((Agenda.syncMembers true).filterMap operationOf?).foldl begin ⟨s, .idle, .idle, .idle⟩

/-- The first call of a store that waits for its answer gets it. -/
def answer (answers : Answers) (t : Traffic) : Store → Traffic
  | .favourites =>
    match t.favourites.calls.awaited with
    | a :: _ => t.land (.favourites 0 (answers .favourites a.call))
    | [] => t
  | .cart =>
    match t.cart.awaited with
    | a :: _ => t.land (.cart 0 (answers .cart a.call))
    | [] => t
  | .orders =>
    match t.orders.awaited with
    | a :: _ => t.land (.orders 0 (answers .orders a.call))
    | [] => t

/-- The one call of the favourites gets its answer. -/
theorem answer_favourites {t : Traffic} {a : Awaited Favourites.Point}
    (h : t.favourites.calls = ⟨[a], []⟩) (answers : Answers) :
    t.answer answers .favourites =
      { t with favourites := ⟨.idle, t.favourites.waiting, t.favourites.woken⟩ }.favouritesStep
        (Favourites.resume t.shop.isAuthenticated t.shop.favourites a.point
          (answers .favourites a.call)) := by
  simp only [answer, land, Favourites.Underway.takeCall, h, List.getElem?_cons_zero]
  rfl

theorem answer_cart {t : Traffic} {a : Awaited Cart.Point} (h : t.cart = ⟨[a], []⟩)
    (answers : Answers) :
    t.answer answers .cart = { t with cart := .idle }.cartStep
      (Cart.resume t.shop.cartContext t.shop.cart a.point (answers .cart a.call)) := by
  simp only [answer, land, h, List.getElem?_cons_zero]
  rfl

theorem answer_orders {t : Traffic} {a : Awaited Orders.Point} (h : t.orders = ⟨[a], []⟩)
    (answers : Answers) :
    t.answer answers .orders = { t with orders := .idle }.ordersStep
      (Orders.resume t.shop.orders a.point (answers .orders a.call)) := by
  simp only [answer, land, h, List.getElem?_cons_zero]
  rfl

/-- A round in which the stores get their answers in the order of the schedule. -/
def round (s : Shop) (answers : Answers) (schedule : List Store) : Traffic :=
  schedule.foldl (answer answers) (openRound s)

/-- How the three stores stand in a round that has begun with the given favourites and whose listing
of the favourites fails. -/
structure Loading (ids : List Int) (answers : Answers) (t : Traffic) : Prop where
  favourites : Course (Favourites.ListingErrorStays ids (answers .favourites))
    t.shop.favourites.error (Favourites.Resyncing ids t.shop.favourites) t.favourites.calls
  cart : Course (Cart.LoadFails (answers .cart)) t.shop.cart.error Cart.Refreshing t.cart
  orders : Course (Orders.LoadFails (answers .orders)) t.shop.orders.error
    (Orders.Refreshing (answers .orders)) t.orders

variable {answers : Answers} {t : Traffic} {ids : List Int}

theorem loading_openRound {s : Shop} (hauth : s.isAuthenticated = true) (answers : Answers) :
    (openRound s).Loading s.favourites.ids answers := by
  have hsession : s.session.isAuthenticated = true := hauth
  have hopen : openRound s =
      (((Traffic.mk s .idle .idle .idle).begin (.favourites .resync)).begin (.cart .refresh)).begin
        .refreshOrders := rfl
  rw [hopen]
  simp only [begin, favouritesStep, cartStep, ordersStep, isAuthenticated, cartContext,
    Favourites.begin, Favourites.loadIds, Cart.begin, Cart.reload, Orders.begin, hsession, if_true]
  exact ⟨.waiting (.ids rfl), .waiting .load, .waiting .orders⟩

/-- What the call of the favourites comes to that waits. -/
theorem favourites_answer {failure : Failure}
    (hfails : answers .favourites .getFavourites = .failure failure) {f : Favourites}
    {a : Awaited Favourites.Point} (ha : Favourites.Resyncing ids f a) (authenticated : Bool) :
    let s := Favourites.resume authenticated f a.point (answers .favourites a.call)
    Favourites.Arrives (Favourites.ListingErrorStays ids (answers .favourites)) s.state.error
      (Favourites.Resyncing ids s.state) s.progress := by
  cases ha with
  | ids hids =>
    subst hids
    rw [hfails]
    exact Favourites.arrives_listing _ _ _ failure
  | products hids => exact Favourites.arrives_products hids _ _ _

theorem orders_answer {a : Awaited Orders.Point} (ha : Orders.Refreshing (answers .orders) a)
    (o : Orders) :
    let s := Orders.resume o a.point (answers .orders a.call)
    Arrives (Orders.LoadFails (answers .orders)) s.state.error
      (Orders.Refreshing (answers .orders)) s.progress := by
  cases ha with
  | orders => exact Orders.arrives_orders _ _
  | products hp hlist hids => exact Orders.arrives_products hp hlist hids _

theorem Loading.answer (h : t.Loading ids answers) {failure : Failure}
    (hfails : answers .favourites .getFavourites = .failure failure) (store : Store) :
    (t.answer answers store).Loading ids answers := by
  cases store with
  | favourites =>
    obtain ⟨a, ha, hcalls⟩ | hnone := h.favourites.eq_or_awaited
    · rw [answer_favourites hcalls]
      have harrives := favourites_answer hfails ha t.shop.isAuthenticated
      exact ⟨Favourites.course_record rfl harrives, h.cart, h.orders⟩
    · simp only [Traffic.answer, hnone]
      exact h
  | cart =>
    obtain ⟨a, ha, hcalls⟩ | hnone := h.cart.eq_or_awaited
    · rw [answer_cart hcalls]
      cases ha
      have harrives := Cart.arrives_load t.shop.cartContext t.shop.cart (answers .cart)
      exact ⟨h.favourites, course_record harrives, h.orders⟩
    · simp only [Traffic.answer, hnone]
      exact h
  | orders =>
    obtain ⟨a, ha, hcalls⟩ | hnone := h.orders.eq_or_awaited
    · rw [answer_orders hcalls]
      have harrives := orders_answer ha t.shop.orders
      exact ⟨h.favourites, h.cart, course_record harrives⟩
    · simp only [Traffic.answer, hnone]
      exact h

theorem loading_round {s : Shop} (hauth : s.isAuthenticated = true) {failure : Failure}
    (hfails : answers .favourites .getFavourites = .failure failure) (schedule : List Store) :
    (round s answers schedule).Loading s.favourites.ids answers := by
  induction schedule using List.reverseRecOn with
  | nil => exact loading_openRound hauth answers
  | append_singleton past store ih =>
    rw [round, List.foldl_concat]
    exact ih.answer hfails store

/-- **The error of a failed listing.** Let a shop with a credential, whose favourites are any, begin a
round with nothing else under way, and let the listing of the favourites fail. When the favourites
have returned, whatever else was answered and in whatever order, they have an error if and only if
there were no ids from before or the call for their products failed as well: the success of that call
takes the error of the listing away. And when all three stores have returned, the exit code is 1 if and
only if that error is there or the cart or the orders could not be loaded. -/
theorem error_after_round_iff (s : Shop) (answers : Answers) (schedule : List Store)
    {failure : Failure} (hauth : s.isAuthenticated = true)
    (hfails : answers .favourites .getFavourites = .failure failure) :
    let t := round s answers schedule
    let stays := s.favourites.ids = [] ∨
      (answers .favourites (.getProductsBatch s.favourites.ids)).isFailure = true
    (t.endings .favourites = [none] → (t.shop.favourites.error ≠ none ↔ stays)) ∧
      ((∀ store, t.endings store = [none]) →
        (t.shop.exitCode = 1 ↔
          stays ∨ Cart.LoadFails (answers .cart) ∨ Orders.LoadFails (answers .orders))) := by
  intro t stays
  have hloading : t.Loading s.favourites.ids answers := loading_round hauth hfails schedule
  refine ⟨fun hreturned => (hloading.favourites.told hreturned).ne_none_iff, fun hreturned => ?_⟩
  have hfavourites := hloading.favourites.told (hreturned .favourites)
  have hcart := hloading.cart.told (hreturned .cart)
  have horders := hloading.orders.told (hreturned .orders)
  rw [exitCode_eq_one_iff]
  constructor
  · rintro ⟨store, hreported⟩
    cases store with
    | favourites => exact .inl (hfavourites.reported_iff.mp hreported)
    | cart => exact .inr (.inl (hcart.reported_iff.mp hreported))
    | orders => exact .inr (.inr (horders.reported_iff.mp hreported))
  · rintro (hstays | hfailed | hfailed)
    · exact ⟨.favourites, hfavourites.reported hstays⟩
    · exact ⟨.cart, hcart.reported hfailed⟩
    · exact ⟨.orders, horders.reported hfailed⟩

/-- The listing fails, and so does the call for the product that was a favourite before. -/
theorem error_after_round_iff_both_fail :
    let down : Failure := ⟨"down", some 503, .null⟩
    let s : Shop := { ofSession ⟨some "t"⟩ .empty Cart.defaultTaxRate with
      favourites := { Favourites.empty with ids := [7] } }
    let answers : Answers := fun
      | .favourites, _ => .failure down
      | _, _ => .value .null
    let t := round s answers [.orders, .favourites, .cart, .favourites]
    s.isAuthenticated = true ∧ answers .favourites .getFavourites = .failure down ∧
      (∀ store, t.endings store = [none]) ∧ t.shop.favourites.error ≠ none ∧
      t.shop.exitCode = 1 := by
  intro down s answers t
  have hreturned : ∀ store, t.endings store = [none] := by
    intro store
    cases store <;> rfl
  obtain ⟨herror, hcode⟩ :=
    error_after_round_iff s answers [.orders, .favourites, .cart, .favourites] rfl rfl
  exact ⟨rfl, rfl, hreturned, (herror (hreturned .favourites)).mpr (.inr rfl),
    (hcode hreturned).mpr (.inl (.inr rfl))⟩

end Traffic

end Shop

/-- A favourite is known from before when the listing fails. Its product is loaded then, and the round
ends as if nothing had failed. -/
theorem Agenda.listing_error_lost :
    let down : Failure := ⟨"down", some 503, .null⟩
    let script : Script :=
      ⟨[(.getFavourites, .value (.list [.int 7])), (.getFavourites, .failure down)],
        [(.getProductsBatch, .value (.list [.object [("id", .int 7)]]))]⟩
    let shop := Shop.ofSession ⟨some "t"⟩ .empty Cart.defaultTaxRate
    let before := (ofShop shop (.script script)).perform (.favourites .resync)
    let after := before.perform .syncOnce
    (∃ rest, before.backend = .script rest ∧ (rest.serve .getFavourites).2 = .failure down) ∧
      before.shop.isAuthenticated = true ∧ before.shop.favourites.ids = [7] ∧
      after.shop.favourites.error = none ∧
      after.ending? before.nextTask = some (.ok (.code 0)) :=
  ⟨⟨_, rfl, rfl⟩, rfl, rfl, rfl, rfl⟩

end Shopfront
