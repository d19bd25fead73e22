import Shopfront.Agenda.Run
import Shopfront.Proofs.Cart.Merging
import Shopfront.Proofs.Cart.Traffic
import Shopfront.Proofs.Decimal.Rounding
import Shopfront.Proofs.Shop.Independence

/-! Prices in a cart that is loaded in cycles. A cycle asks for the products first; if that fails,
the catalog is empty, and a line that comes in then is priced at zero. Later loads take the price of
the line that is shown before that of the catalog. Main statement: if the service reports no prices,
a line has its product's price exactly if the catalog under which it came in has the product
(`price_iff_listed_on_arrival`). -/

namespace Shopfront

namespace Cart

/-- The price that the catalog gives a product, zero if it has none. -/
def catalogPrice (product : Int) (catalog : Catalog) : Decimal :=
  ((catalog.get? product).map (·.price)).getD .zero

theorem linePrice?_loaded (ctx : Context) (c : Cart) {product : Int} {p : Payload}
    (hr : ∀ r ∈ Report.listOf p, r.product = product → r.price = none) :
    linePrice? product (loaded ctx c p).lines =
      if listsLine product p
        then some ((linePrice? product c.lines).getD (catalogPrice product ctx.catalog))
        else none := by
  have hlists : listsLine product p = ((Report.listOf p).find? fun r =>
      1 ≤ r.quantity ∧ r.product = product).isSome := List.isSome_find?.symm
  refine (linePrice?_merge _).trans ?_
  rw [hlists]
  cases hfirst : (Report.listOf p).find? fun r => 1 ≤ r.quantity ∧ r.product = product with
  | none => rfl
  | some r =>
    obtain ⟨_, hproduct⟩ : 1 ≤ r.quantity ∧ r.product = product := by
      simpa using List.find?_some hfirst
    have hnone : r.price = none := hr r (List.mem_of_find?_eq_some hfirst) hproduct
    rw [Option.map_some, hnone, priceFor_eq, Option.none_or]
    cases linePrice? product c.lines <;> rfl

end Cart

namespace Shop

open Cart (listsLine linePrice? catalogPrice)

/-! ## Cycles -/

/-- A cycle of loading: how the call for the products ends, and what lands from then until the next
cycle begins. -/
structure Cycle where
  listing : Reply
  landings : List Landing

/-- The catalog that a listing of the products comes to; a fault ends the cycle and leaves the old
one. -/
def catalogOf? : Reply → Option Catalog
  | .value p => some (.ofPayload p)
  | .failure _ => some .empty
  | .fault _ => none

def Traffic.useCatalog (t : Traffic) (catalog : Catalog) : Traffic :=
  { t with shop := t.shop.useCatalog catalog }

/-- Every store begins to load. -/
def Traffic.loadAll (t : Traffic) : Traffic :=
  ((Agenda.syncMembers true).filterMap operationOf?).foldl begin t

/-- The cart loaded by a landing, with the catalog in force. -/
def Traffic.loadOf? (t : Traffic) : Landing → Option (Catalog × Payload)
  | .cart place (.value p) => t.cart.awaited[place]?.map fun _ => (t.shop.catalog, p)
  | _ => none

/-- A shop and the loads of its cart so far. -/
structure Watch where
  traffic : Traffic
  loads : List (Catalog × Payload)

namespace Watch

def start (session : Session) (catalog : Catalog) (taxRate : Decimal) : Watch :=
  ⟨.start session catalog taxRate, []⟩

/-- The products have been asked for: the stores begin to load unless there was a fault. -/
def list (w : Watch) (listing : Reply) : Watch :=
  match catalogOf? listing with
  | some catalog => { w with traffic := (w.traffic.useCatalog catalog).loadAll }
  | none => w

def land (w : Watch) (landing : Landing) : Watch :=
  ⟨w.traffic.land landing, w.loads ++ (w.traffic.loadOf? landing).toList⟩

def cycle (w : Watch) (c : Cycle) : Watch := c.landings.foldl land (w.list c.listing)

def run (w : Watch) (cycles : List Cycle) : Watch := cycles.foldl cycle w

end Watch

/-- The catalog under which a product came into the cart. A load without the product takes it out
again. -/
def arrival (product : Int) (loads : List (Catalog × Payload)) : Option Catalog :=
  loads.foldl (fun kept (catalog, p) => if listsLine product p then kept.or catalog else none) none

variable {product : Int} {price : ℚ} {w : Watch} {loads : List (Catalog × Payload)}

theorem arrival_concat (catalog : Catalog) (p : Payload) :
    arrival product (loads ++ [(catalog, p)]) =
      if listsLine product p then (arrival product loads).or catalog else none :=
  List.foldl_concat ..

theorem mem_of_arrival {catalog : Catalog} (h : arrival product loads = some catalog) :
    ∃ p, (catalog, p) ∈ loads := by
  induction loads using List.reverseRecOn with
  | nil => cases h
  | append_singleton loads load ih =>
    obtain ⟨newest, p⟩ := load
    rw [arrival_concat] at h
    obtain ⟨_, h⟩ := Option.ite_none_right_eq_some.mp h
    rcases Option.or_eq_some_iff.mp h with h | ⟨_, h⟩
    · obtain ⟨q, hq⟩ := ih h
      exact ⟨q, List.mem_append_left _ hq⟩
    · obtain rfl := Option.some.inj h
      exact ⟨p, List.mem_append_right _ (List.mem_singleton_self _)⟩

/-! ## Prices of lines -/

/-- The catalog gives the product the price if it has the product. -/
def Prices (product : Int) (price : ℚ) (catalog : Catalog) : Prop :=
  ∀ found ∈ catalog.get? product, found.price.value = price

/-- No price is reported for the product. -/
def Silent (product : Int) : Landing → Prop
  | .cart _ (.value p) => ∀ r ∈ Cart.Report.listOf p, r.product = product → r.price = none
  | _ => True

/-- The cart is being loaded and nothing else; the product's line has the price of the catalog under
which it came in, and every catalog used gives the product the price if it has it. -/
structure Watch.Priced (product : Int) (price : ℚ) (w : Watch) : Prop where
  authenticated : w.traffic.shop.isAuthenticated = true
  refreshing : ∀ a ∈ w.traffic.cart.awaited, a = ⟨.getCart, .loading .nothing⟩
  line : linePrice? product w.traffic.shop.cart.lines =
    (arrival product w.loads).map (catalogPrice product)
  used : ∀ load ∈ w.loads, Prices product price load.1
  current : w.traffic.cart.awaited ≠ [] → Prices product price w.traffic.shop.catalog

namespace Watch

theorem priced_start {session : Session} (h : session.isAuthenticated = true) (catalog : Catalog)
    (taxRate : Decimal) (product : Int) (price : ℚ) :
    (start session catalog taxRate).Priced product price where
  authenticated := h
  refreshing _ ha := nomatch ha
  line := rfl
  used _ hload := nomatch hload
  current hne := absurd rfl hne

/-- Nothing of the favourites or the orders matters. -/
theorem Priced.of_alike {t : Traffic} (h : w.Priced product price)
    (halike : Traffic.Alike .cart t w.traffic) : Priced product price ⟨t, w.loads⟩ := by
  obtain ⟨t', loads⟩ := w
  obtain ⟨⟨session, catalog, taxRate, f, c, o⟩, uf, uc, uo⟩ := t
  obtain ⟨⟨session', catalog', taxRate', f', c', o'⟩, uf', uc', uo'⟩ := t'
  obtain ⟨hsetting, hpart⟩ := halike
  cases hsetting
  cases hpart
  exact ⟨h.authenticated, h.refreshing, h.line, h.used, h.current⟩

theorem Priced.useCatalog (h : w.Priced product price) {catalog : Catalog}
    (hcatalog : Prices product price catalog) :
    Priced product price ⟨w.traffic.useCatalog catalog, w.loads⟩ :=
  ⟨h.authenticated, h.refreshing, h.line, h.used, fun _ => hcatalog⟩

theorem Priced.refresh (h : w.Priced product price)
    (hcatalog : Prices product price w.traffic.shop.catalog) :
    Priced product price ⟨w.traffic.begin (.cart .refresh), w.loads⟩ := by
  have hbegin : Cart.begin w.traffic.shop.cartContext w.traffic.shop.cart .refresh =
      .call { w.traffic.shop.cart with pending := w.traffic.shop.cart.pending + 1 } .getCart
        (.loading .nothing) := if_pos h.authenticated
  rw [Traffic.begin, hbegin]
  refine ⟨h.authenticated, ?_, h.line, h.used, fun _ => hcatalog⟩
  intro a ha
  obtain hold | hnew := List.mem_append.mp ha
  · exact h.refreshing a hold
  · exact List.mem_singleton.mp hnew

theorem Priced.list (h : w.Priced product price) {listing : Reply}
    (hlisting : ∀ catalog ∈ catalogOf? listing, Prices product price catalog) :
    (w.list listing).Priced product price := by
  unfold Watch.list
  split
  · next catalog hcatalog =>
    have hprices : Prices product price catalog := hlisting catalog hcatalog
    -- the favourites and the orders begin to load as well, which is nothing to the cart
    let t₁ := (w.traffic.useCatalog catalog).begin (.favourites .resync)
    let t₂ := t₁.begin (.cart .refresh)
    have hload : (w.traffic.useCatalog catalog).loadAll = t₂.begin .refreshOrders := rfl
    have h₁ : Priced product price ⟨t₁, w.loads⟩ :=
      (h.useCatalog hprices).of_alike (Traffic.alike_begin (by decide) _)
    have h₂ : Priced product price ⟨t₂, w.loads⟩ := h₁.refresh hprices
    rw [hload]
    exact h₂.of_alike (Traffic.alike_begin (by decide) _)
  · exact h

/-- A call has been answered, and its operation has ended. -/
theorem Priced.answered (h : w.Priced product price) {place : Nat} {a : Awaited Cart.Point}
    (ha : w.traffic.cart.awaited[place]? = some a) {s : Cart.Step}
    (hend : Underway.callOf? s.progress = none)
    (hline : linePrice? product s.state.lines = (arrival product loads).map (catalogPrice product))
    (hused : ∀ load ∈ loads, Prices product price load.1) :
    Priced product price
      ⟨({ w.traffic with cart := w.traffic.cart.take place }).cartStep s, loads⟩ := by
  have hmem := Underway.mem_awaited_take ha
  have hwaits : a ∈ w.traffic.cart.awaited := (hmem a).mpr (.inl rfl)
  refine ⟨h.authenticated, ?_, hline, hused, fun _ => h.current (List.ne_nil_of_mem hwaits)⟩
  intro b hb
  have hb : b ∈ ((w.traffic.cart.take place).record s.progress).awaited := hb
  rw [Underway.awaited_record, hend, Option.toList_none, List.append_nil] at hb
  exact h.refreshing b ((hmem b).mpr (.inr hb))

theorem land_cart {place : Nat} {a : Awaited Cart.Point}
    (ha : w.traffic.cart.awaited[place]? = some a) (reply : Reply) :
    w.land (.cart place reply) =
      ⟨({ w.traffic with cart := w.traffic.cart.take place }).cartStep
          (Cart.resume w.traffic.shop.cartContext w.traffic.shop.cart a.point reply),
        w.loads ++ (w.traffic.loadOf? (.cart place reply)).toList⟩ := by
  simp only [Watch.land, Traffic.land, ha]

/-- A load that succeeds brings the lines up to date. -/
theorem Priced.load (h : w.Priced product price) {place : Nat} {a : Awaited Cart.Point}
    (ha : w.traffic.cart.awaited[place]? = some a) {p : Payload}
    (hsilent : ∀ r ∈ Cart.Report.listOf p, r.product = product → r.price = none) :
    (w.land (.cart place (.value p))).Priced product price := by
  have hwaits : a ∈ w.traffic.cart.awaited := List.mem_of_getElem? ha
  have hload : w.traffic.loadOf? (.cart place (.value p)) = some (w.traffic.shop.catalog, p) := by
    rw [Traffic.loadOf?, ha]
    rfl
  rw [land_cart ha, hload, h.refreshing a hwaits]
  refine h.answered ha rfl ?_ ?_
  · refine (Cart.linePrice?_loaded w.traffic.shop.cartContext w.traffic.shop.cart hsilent).trans ?_
    rw [h.line, Option.toList_some, arrival_concat]
    split
    · cases arrival product w.loads <;> rfl
    · rfl
  · exact List.forall_mem_append.mpr
      ⟨h.used, List.forall_mem_singleton.mpr (h.current (List.ne_nil_of_mem hwaits))⟩

/-- A load that fails leaves the lines. -/
theorem Priced.fail (h : w.Priced product price) {place : Nat} {a : Awaited Cart.Point}
    (ha : w.traffic.cart.awaited[place]? = some a) {reply : Reply}
    (hreply : ∀ p, reply ≠ .value p) : (w.land (.cart place reply)).Priced product price := by
  rw [land_cart ha, h.refreshing a (List.mem_of_getElem? ha)]
  cases reply with
  | value p => exact absurd rfl (hreply p)
  | failure f | fault f =>
    show Priced product price ⟨_, w.loads ++ []⟩
    rw [List.append_nil]
    exact h.answered ha rfl h.line h.used

theorem land_of_ne_cart {landing : Landing} (h : landing.store ≠ .cart) :
    w.land landing = ⟨w.traffic.land landing, w.loads⟩ := by
  cases landing with
  | cart place reply => exact absurd rfl h
  | favourites place reply | turn place | orders place reply =>
    exact congrArg (Watch.mk _) (List.append_nil _)

theorem Priced.land (h : w.Priced product price) {landing : Landing}
    (hsilent : Silent product landing) : (w.land landing).Priced product price := by
  by_cases hcart : landing.store = .cart
  · cases landing with
    | favourites place reply | turn place | orders place reply => cases hcart
    | cart place reply =>
      cases ha : w.traffic.cart.awaited[place]? with
      | none =>
        have hland : w.land (.cart place reply) = w := by
          cases reply <;> simp [Watch.land, Traffic.land, Traffic.loadOf?, ha]
        rwa [hland]
      | some a =>
        cases reply with
        | value p => exact h.load ha hsilent
        | failure f => exact h.fail ha (by rintro _ ⟨⟩)
        | fault fault => exact h.fail ha (by rintro _ ⟨⟩)
  · rw [land_of_ne_cart hcart]
    exact h.of_alike (Traffic.alike_land hcart _)

theorem Priced.cycle (h : w.Priced product price) {c : Cycle}
    (hlisting : ∀ catalog ∈ catalogOf? c.listing, Prices product price catalog)
    (hsilent : ∀ landing ∈ c.landings, Silent product landing) :
    (w.cycle c).Priced product price :=
  c.landings.foldlRecOn Watch.land (h.list hlisting) fun _ hw landing hmem =>
    hw.land (hsilent landing hmem)

theorem Priced.run (h : w.Priced product price) {cycles : List Cycle}
    (hlistings : ∀ c ∈ cycles, ∀ catalog ∈ catalogOf? c.listing, Prices product price catalog)
    (hsilent : ∀ c ∈ cycles, ∀ landing ∈ c.landings, Silent product landing) :
    (w.run cycles).Priced product price :=
  cycles.foldlRecOn Watch.cycle h fun _ hw c hmem =>
    hw.cycle (hlistings c hmem) (hsilent c hmem)

/-- **When a line has its product's price.** Let a shop with a credential load its cart in cycles,
let the listings of the products fail or not, and let every catalog that has a product give it the
same price, while the service reports none for it. At every moment the line of the product, if there
is one, came in under the catalog of the first of the loads that have had the product without a
break, and it has the price if and only if that catalog has the product or the price is zero. No
later catalog matters. -/
theorem price_iff_listed_on_arrival {session : Session} (hauth : session.isAuthenticated = true)
    (catalog : Catalog) (taxRate : Decimal) {product : Int} {price : ℚ} {cycles : List Cycle}
    (hlistings : ∀ c ∈ cycles, ∀ catalog ∈ catalogOf? c.listing, Prices product price catalog)
    (hsilent : ∀ c ∈ cycles, ∀ landing ∈ c.landings, Silent product landing) :
    let w := (start session catalog taxRate).run cycles
    ∀ line ∈ Cart.lineOf? product w.traffic.shop.cart.lines, ∃ known,
      arrival product w.loads = some known ∧
        (line.price.value = price ↔ (known.get? product).isSome = true ∨ price = 0) := by
  intro w line hline
  have hpriced : w.Priced product price :=
    (priced_start hauth catalog taxRate product price).run hlistings hsilent
  have hprice : (arrival product w.loads).map (catalogPrice product) = some line.price :=
    hpriced.line.symm.trans (congrArg (Option.map Cart.Line.price) hline)
  obtain ⟨known, hknown, hvalue⟩ := Option.map_eq_some_iff.mp hprice
  refine ⟨known, hknown, ?_⟩
  rw [← hvalue, catalogPrice]
  cases hfound : known.get? product with
  | some found =>
    obtain ⟨p, hload⟩ := mem_of_arrival hknown
    have hprices : found.price.value = price := hpriced.used _ hload found hfound
    simp [hprices]
  | none => simp [Decimal.value_zero, eq_comm]

/-- The product is listed, then no product is, and the price stays. -/
theorem price_iff_listed_on_arrival_before_outage :
    let row : Payload := .object [("id", .int 1), ("quantity", .int 2), ("sneaker_id", .int 7)]
    let listing : Payload := .list [.object [("id", .int 7), ("price", .int 1000)]]
    let cycles : List Cycle :=
      [⟨.value listing, [.cart 0 (.value (.list [row]))]⟩,
        ⟨.failure ⟨"down", some 503, .null⟩, [.cart 0 (.value (.list [row]))]⟩]
    let w := (start ⟨some "t"⟩ .empty Cart.defaultTaxRate).run cycles
    (∀ c ∈ cycles, ∀ catalog ∈ catalogOf? c.listing, Prices 7 1000 catalog) ∧
      (∀ c ∈ cycles, ∀ landing ∈ c.landings, Silent 7 landing) ∧
      ∃ line ∈ Cart.lineOf? 7 w.traffic.shop.cart.lines, line.price.value = 1000 := by
  intro row listing cycles w
  have hget : (Catalog.ofPayload listing).get? 7 =
      some ⟨7, "", .finite false 1000 0, none, ""⟩ := by
    decide +kernel
  have hprices : ∀ c ∈ cycles, ∀ catalog ∈ catalogOf? c.listing, Prices 7 1000 catalog := by
    refine List.forall_mem_cons.mpr ⟨?_, List.forall_mem_singleton.mpr ?_⟩
    · rintro _ ⟨⟩ found hfound
      rw [hget] at hfound
      cases hfound
      norm_num [Decimal.value, Decimal.scaled]
    · rintro _ ⟨⟩ found ⟨⟩
  have hrow : Silent 7 (.cart 0 (.value (.list [row]))) := by
    show ∀ r ∈ Cart.Report.listOf (.list [row]), r.product = 7 → r.price = none
    decide +kernel
  have hsilent : ∀ c ∈ cycles, ∀ landing ∈ c.landings, Silent 7 landing :=
    List.forall_mem_cons.mpr ⟨List.forall_mem_singleton.mpr hrow,
      List.forall_mem_singleton.mpr (List.forall_mem_singleton.mpr hrow)⟩
  have hlisted : (arrival 7 w.loads).any (fun known => (known.get? 7).isSome) = true := by
    decide +kernel
  have hline : (Cart.lineOf? 7 w.traffic.shop.cart.lines).isSome = true := by
    decide +kernel
  obtain ⟨line, hline⟩ := Option.isSome_iff_exists.mp hline
  obtain ⟨known, hknown, hiff⟩ :=
    price_iff_listed_on_arrival rfl .empty Cart.defaultTaxRate hprices hsilent line hline
  rw [hknown] at hlisted
  exact ⟨hprices, hsilent, line, hline, hiff.mpr (.inl hlisted)⟩

end Watch

end Shop

/-- A listing that has come in makes the agenda do what `Watch.list` does: it replaces the catalog,
and every store begins to load. -/
theorem Agenda.listingReply_of_catalogOf? (a : Agenda) (t : Task) {reply : Reply}
    {catalog : Catalog} (h : Shop.catalogOf? reply = some catalog) :
    ∃ entries, a.listingReply t true reply =
      ({ a.write entries with shop := a.shop.useCatalog catalog }).delegate t .summary
        (syncMembers true) := by
  cases reply with
  | value p | failure f =>
    cases h
    exact ⟨_, rfl⟩
  | fault fault => cases h

/-- The first listing of the products fails and the second does not. The line that came in meanwhile
stays at zero. -/
theorem Agenda.priced_at_zero_for_good :
    let listing : Payload := .list [.object [("id", .int 7), ("price", .int 1000)]]
    let row : Payload := .object [("id", .int 1), ("quantity", .int 1), ("sneaker_id", .int 7)]
    let script : Script :=
      ⟨[(.getProducts, .failure ⟨"down", some 503, .null⟩), (.getProducts, .value listing)],
        [(.getCart, .value (.list [row]))]⟩
    let shop := Shop.ofSession ⟨some "t"⟩ .empty Cart.defaultTaxRate
    let first := (ofShop shop (.script script)).perform .syncOnce
    let second := first.perform .syncOnce
    first.shop.catalog = .empty ∧ first.shop.cart.lines.length = 1 ∧
      (second.shop.catalog.get? 7).map (·.price) = some (.finite false 1000 0) ∧
      second.shop.cart.error = none ∧
      second.shop.cart.lines.map (fun line => (line.product, line.price)) = [(7, .zero)] := by
  decide +kernel

end Shopfront
