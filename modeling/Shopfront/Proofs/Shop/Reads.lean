import Shopfront.Proofs.Cart.Soundness
import Shopfront.Proofs.Cart.Totals
import Shopfront.Proofs.Shop.Action
import Shopfront.Proofs.Shop.Traffic

/-! Reads of the cart. Each of them works the totals out from the lines, and these are well-formed at
every moment. Main statement: whatever has happened, a read is answered if and only if the subtotal is
less than 2·10^27 (`read_answered_iff`). -/

namespace Shopfront

/-- Whether an action reads the cart with its totals. -/
def Action.readsTotals : Action → Bool
  | .totalPrice => true
  | .taxAmount => true
  | .cart => true
  | .drawer => true
  | _ => false

namespace Shop

/-- A read is answered if and only if the totals can be worked out, and else it is an arithmetic
fault. -/
theorem read_ending (s : Shop) {action : Action} (h : action.readsTotals = true) :
    (∃ t, s.totals = .ok t) ∧ (∃ answer, (s.perform action).ending = .ok answer) ∨
      (¬∃ t, s.totals = .ok t) ∧
        ∃ cause, (s.perform action).ending = .error (.fault (.arithmetic cause)) := by
  cases htotals : s.totals with
  | ok t =>
    refine .inl ⟨⟨t, rfl⟩, ?_⟩
    cases action with
    | totalPrice | taxAmount | cart =>
      simp only [perform, withTotals, htotals]
      exact ⟨_, rfl⟩
    | drawer =>
      simp only [perform, drawer, htotals]
      exact ⟨_, rfl⟩
    | _ => cases h
  | error cause =>
    refine .inr ⟨?_, cause, ?_⟩
    · rintro ⟨t, ht⟩
      cases ht
    · cases action with
      | totalPrice | taxAmount | cart =>
        simp only [perform, withTotals, htotals]
        rfl
      | drawer =>
        simp only [perform, drawer, htotals]
        rfl
      | _ => cases h

/-- The prices of the catalog and the lines of the cart, at the tax rate that is used by default. -/
structure Sound (s : Shop) : Prop where
  catalog : Cart.Priced s.catalog
  cart : Cart.Sound s.cart
  taxRate : s.taxRate = Cart.defaultTaxRate

/-- Whatever a caller does at once keeps the lines and the prices sound. -/
theorem Sound.perform {s : Shop} (h : s.Sound) (action : Action) : (s.perform action).shop.Sound := by
  suffices hp : ∀ {s' : Shop}, Performs s action s' → s'.Sound from hp (s.perform_performs action)
  intro s' hp
  cases hp with
  | applyCart p => exact ⟨h.catalog, h.cart.applySnapshot h.catalog p, h.taxRate⟩
  | resetCart | logout => exact ⟨h.catalog, .reset _, h.taxRate⟩
  | useCatalog p => exact ⟨Cart.priced_ofPayload p, h.cart, h.taxRate⟩
  | _ => exact ⟨h.catalog, h.cart, h.taxRate⟩

namespace Traffic

/-- A sound shop, and sound lines in every operation on the cart that waits. -/
structure Sound (t : Traffic) : Prop where
  shop : t.shop.Sound
  points : ∀ a ∈ t.cart.awaited, Cart.SoundPoint a.point

variable {t : Traffic}

theorem Sound.cartStep (h : t.Sound) {u : Underway Cart.Point Cart.Result}
    (hu : ∀ a ∈ u.awaited, Cart.SoundPoint a.point) {s : Cart.Step} (hs : Cart.SoundStep s) :
    ({ t with cart := u }.cartStep s).Sound := by
  refine ⟨⟨h.shop.catalog, hs.cart, h.shop.taxRate⟩, ?_⟩
  intro a ha
  simp only [Traffic.cartStep, Underway.awaited_record, List.mem_append, Option.mem_toList] at ha
  obtain hold | hnew := ha
  · exact hu a hold
  · exact hs.point a hnew

theorem Sound.begin (h : t.Sound) (operation : Operation) : (t.begin operation).Sound := by
  cases operation with
  | favourites request => exact ⟨⟨h.shop.catalog, h.shop.cart, h.shop.taxRate⟩, h.points⟩
  | cart request =>
    exact h.cartStep h.points ((Cart.begin_continues request).sound h.shop.catalog h.shop.cart)
  | refreshOrders => exact ⟨⟨h.shop.catalog, h.shop.cart, h.shop.taxRate⟩, h.points⟩

theorem Sound.land (h : t.Sound) (landing : Landing) : (t.land landing).Sound := by
  suffices hl : ∀ {t'}, Lands t landing t' → t'.Sound from hl (t.land_lands landing)
  intro t' hl
  cases hl with
  | missed _ => exact h
  | @cart place a reply ha =>
    have hmem := Underway.mem_awaited_take ha
    exact h.cartStep (fun b hb => h.points b ((hmem b).mpr (.inr hb)))
      ((Cart.resume_resumes a.point reply).sound h.shop.catalog h.shop.cart
        (h.points a ((hmem a).mpr (.inl rfl))))
  | favourites | turn | orders => exact ⟨⟨h.shop.catalog, h.shop.cart, h.shop.taxRate⟩, h.points⟩

theorem Sound.handle (h : t.Sound) (e : Event) : (t.handle e).Sound := by
  cases e with
  | act action => exact ⟨h.shop.perform action, h.points⟩
  | begin operation => exact h.begin operation
  | land landing => exact h.land landing

theorem sound_run (session : Session) (listing : Payload) (events : List Event) :
    ((start session (Catalog.ofPayload listing) Cart.defaultTaxRate).run events).Sound := by
  refine run_keeps ?_ fun h e _ => h.handle e
  exact ⟨⟨Cart.priced_ofPayload listing, ⟨Cart.wellFormed_nil, Cart.wellFormed_nil⟩, rfl⟩,
    fun a ha => (by cases ha)⟩

/-- **Reads of the cart.** Let operations of all stores interleave in any way with what the caller
does, whatever they are answered, in a shop with the default tax rate and any listing of products.
Then each read of the total price, the tax, the cart or the drawer is answered if and only if the
subtotal can be worked out and is less than 2·10^27. Where the exact amounts of the lines, each rounded
up, come to less, it is answered; where they come to as much even if each is rounded down, it ends
with an arithmetic fault. -/
theorem read_answered_iff (session : Session) (listing : Payload) (events : List Event)
    {action : Action} (h : action.readsTotals = true) :
    let s := ((start session (Catalog.ofPayload listing) Cart.defaultTaxRate).run events).shop
    ((∃ answer, (s.perform action).ending = .ok answer) ↔
        ∃ sum, Cart.subtotal s.cart.lines = .ok sum ∧ sum.value < Cart.totalLimit) ∧
      ((s.cart.lines.map (⌈·.amount⌉₊)).sum < Cart.totalLimit →
        ∃ answer, (s.perform action).ending = .ok answer) ∧
      (Cart.totalLimit ≤ (s.cart.lines.map (⌊·.amount⌋₊)).sum →
        ∃ cause, (s.perform action).ending = .error (.fault (.arithmetic cause))) := by
  intro s
  have hsound : s.Sound := (sound_run session listing events).shop
  have hlines := hsound.cart.lines.each
  have htotals : s.totals = Cart.totals s.cart.lines Cart.defaultTaxRate := by
    rw [totals, hsound.taxRate]
  have hiff := Cart.totals_ok_iff hlines
  rw [← htotals] at hiff
  obtain ⟨hok, hanswer⟩ | ⟨hnot, cause, hfault⟩ := s.read_ending h
  · refine ⟨iff_of_true hanswer (hiff.mp hok), fun _ => hanswer, fun hfloor => ?_⟩
    rw [htotals] at hok
    exact absurd hok (Cart.not_totals_ok_of_floor hlines hfloor)
  · have hnone : ¬∃ answer, (s.perform action).ending = .ok answer := by
      rintro ⟨answer, hanswer⟩
      rw [hfault] at hanswer
      cases hanswer
    refine ⟨iff_of_false hnone fun hsum => hnot (hiff.mpr hsum), fun hceil => ?_,
      fun _ => ⟨cause, hfault⟩⟩
    rw [htotals] at hnot
    exact absurd (Cart.totals_ok_of_ceil hlines hceil) hnot

/-- A cart of two lines. -/
theorem read_answered_iff_two_lines :
    let row : Int → String → Int → Payload := fun id price quantity =>
      .object [("id", .int id), ("price", .text price), ("quantity", .int quantity),
        ("sneaker_id", .int id)]
    let s := ((start ⟨some "t"⟩ (Catalog.ofPayload (.list [])) Cart.defaultTaxRate).run
      [.begin (.cart .refresh),
        .land (.cart 0 (.value (.list [row 7 "19.99" 3, row 9 "0.015" 1])))]).shop
    Action.drawer.readsTotals = true ∧ Cart.subtotal s.cart.lines = .ok (.finite false 59985 (-3)) ∧
      ∃ answer, (s.perform .drawer).ending = .ok answer := by
  intro row s
  have hsum : Cart.subtotal s.cart.lines = .ok (.finite false 59985 (-3)) := by rfl
  have hlimit : (Decimal.finite false 59985 (-3)).value < Cart.totalLimit := by
    norm_num [Decimal.value, Decimal.scaled, Cart.totalLimit]
  exact ⟨rfl, hsum, (read_answered_iff ⟨some "t"⟩ (.list []) _ rfl).1.mpr ⟨_, hsum, hlimit⟩⟩

/-- A line at a price of 31 digits. No read of the cart is answered then. -/
theorem reads_fault_at_high_price :
    let s := ((start ⟨some "t"⟩ (Catalog.ofPayload (.list [])) Cart.defaultTaxRate).run
      [.begin (.cart .refresh),
        .land (.cart 0 (.value (.object [("items", .list [.object
          [("id", .int 1), ("price", .text "1E+30"), ("quantity", .int 1),
            ("sneaker_id", .int 7)]])])))]).shop
    let fault : Ending := .error (.fault (.arithmetic .invalidOperation))
    (s.perform .totalPrice).ending = fault ∧ (s.perform .taxAmount).ending = fault ∧
      (s.perform .cart).ending = fault ∧ (s.perform .drawer).ending = fault :=
  ⟨rfl, rfl, rfl, rfl⟩

end Traffic

end Shop

end Shopfront
