import Shopfront.Proofs.Orders.Traffic

/-! Orders and their products. A refresh loads them by two calls, between which others may run to their
ends. Main statement: what the store shows is what one refresh has fetched, or nothing
(`fetched_by_one_refresh`). -/

namespace Shopfront.Orders.Traffic

/-- The store shows the orders, and has the products. -/
def Shows (t : Traffic) (orders : List Order) (products : Catalog) : Prop :=
  t.store.orders = orders ∧ t.store.products = products

/-- The store shows nothing, or what one of the refreshes has fetched. -/
def OfOne (t : Traffic) : Prop :=
  t.Shows [] .empty ∨ ∃ r ∈ t.refreshes, r.Fetched t.store.orders t.store.products

variable {t t' : Traffic} {e : Event}

theorem Handles.ofOne (hh : Handles t e t') (h : t.OfOne) : t'.OfOne := by
  have hstay : t'.store.orders = t.store.orders → t'.store.products = t.store.products →
      t'.OfOne := by
    rintro horders hproducts
    refine h.imp (fun hnone => ⟨horders.trans hnone.1, hproducts.trans hnone.2⟩) ?_
    rintro ⟨r, hr, hfetched⟩
    obtain ⟨place, hplace⟩ := List.mem_iff_getElem?.mp hr
    have hmem := List.mem_of_getElem? (hh.stays hplace hfetched.awaited?_eq)
    exact ⟨r, hmem, by rwa [horders, hproducts]⟩
  cases hh with
  | begin | miss _ => exact hstay rfl rfl
  | refuse | reset => exact .inl ⟨rfl, rfl⟩
  | @goOn place _ _ _ r' _ hr _ _ hgoesOn =>
    cases hgoesOn with
    | ask _ | giveUp _ _ _ => exact hstay rfl rfl
    | fetch hfetched =>
      have hmem : r' ∈ t.refreshes.set place r' :=
        List.mem_set (List.getElem?_eq_some_iff.mp hr).1 r'
      exact .inr ⟨r', hmem, hfetched⟩

theorem ofOne_run (events : List Event) : (start.run events).OfOne := by
  induction events using List.reverseRecOn with
  | nil => exact .inl ⟨rfl, rfl⟩
  | append_singleton past e ih => exact (run_handles past e).ofOne ih

/-- A step of a refresh leaves what is shown, or ends its refresh and shows what this has fetched, or
is the refusal of a refresh without a credential. -/
theorem Handles.moved (hh : Handles t e t') {place : Nat} (hm : t.mover? e = some place) :
    ∃ r, t'.refreshes[place]? = some r ∧
      ((t'.Shows t.store.orders t.store.products ∧ ∀ orders products, ¬r.Fetched orders products) ∨
        r.Fetched t'.store.orders t'.store.products ∨ r = ⟨[], none⟩) := by
  cases hh with
  | begin =>
    cases hm
    refine ⟨_, List.getElem?_concat_length, .inl ⟨⟨rfl, rfl⟩, fun orders products h => ?_⟩⟩
    cases h.awaited?_eq
  | refuse =>
    cases hm
    exact ⟨_, List.getElem?_concat_length, .inr (.inr rfl)⟩
  | @goOn _ _ _ _ r' _ hr _ _ hgoesOn =>
    obtain ⟨_, _, rfl⟩ := Option.map_eq_some_iff.mp hm
    refine ⟨r', List.getElem?_set_self (List.getElem?_eq_some_iff.mp hr).1, ?_⟩
    cases hgoesOn with
    | ask hwaits => exact .inl ⟨⟨rfl, rfl⟩, fun orders products h => hwaits h.awaited?_eq⟩
    | fetch hfetched => exact .inr (.inl hfetched)
    | giveUp _ _ hnot => exact .inl ⟨⟨rfl, rfl⟩, hnot⟩
  | miss hmiss =>
    rw [mover?, hmiss] at hm
    cases hm
  | reset => cases hm

/-- **The orders and their products come from one refresh.** However refreshes interleave with one
another and with resets, with and without a credential, and whatever the replies are: at every moment
the store shows nothing, or exactly what one refresh has fetched that has come to a successful end. A
refresh that has failed, at either call, has left at each of its steps what was shown, and one that
has fetched something has shown that at its last. -/
theorem fetched_by_one_refresh (events : List Event) :
    let t := start.run events
    (t.Shows [] .empty ∨ ∃ r ∈ t.refreshes, r.Fetched t.store.orders t.store.products) ∧
      ∀ past e, past ++ [e] <+: events →
        let before := start.run past
        let after := start.run (past ++ [e])
        ∀ place r, before.mover? e = some place → t.refreshes[place]? = some r →
          (r.Failed → after.Shows before.store.orders before.store.products) ∧
            ∀ orders products, r.Fetched orders products → after.refreshes[place]? = some r →
              after.Shows orders products := by
  intro t
  refine ⟨ofOne_run events, ?_⟩
  intro past e hp before after place r hm hr
  obtain ⟨r₁, hr₁, hmoved⟩ := (run_handles past e).moved hm
  have hfinal : r₁.awaited? = none → r₁ = r := fun hend =>
    Option.some.inj ((stays_run hp hr₁ hend).symm.trans hr)
  refine ⟨fun hfailed => ?_, fun orders products hfetched hlast => ?_⟩
  · rcases hmoved with ⟨hshows, _⟩ | hfetched | rfl
    · exact hshows
    · obtain rfl := hfinal hfetched.awaited?_eq
      exact absurd hfailed hfetched.not_failed
    · obtain rfl := hfinal rfl
      obtain ⟨earlier, call, f, he⟩ := hfailed
      exact absurd he.symm (List.append_ne_nil_of_right_ne_nil _ (List.cons_ne_nil _ _))
  · obtain rfl : r₁ = r := Option.some.inj (hr₁.symm.trans hlast)
    rcases hmoved with ⟨_, hnot⟩ | hshown | rfl
    · exact absurd hfetched (hnot orders products)
    · exact hshown.eq hfetched
    · cases hfetched

/-- Of two refreshes that overlap one fails at its second call, and the other is shown then. -/
theorem fetched_by_one_refresh_overlapping :
    let listing : Payload :=
      .list [.object [("id", .int 1), ("items", .list [.object [("product_id", .int 7)]])]]
    let batch : Payload := .list [.object [("id", .int 7)]]
    let past : List Event :=
      [.begin true, .begin true, .reply 0 (.value listing), .reply 1 (.value listing)]
    let e : Event := .reply 1 (.failure ⟨"down", some 503, .null⟩)
    let t := start.run (past ++ [e, .reply 0 (.value batch)])
    t.store.orders ≠ [] ∧ (∃ r ∈ t.refreshes, r.Fetched t.store.orders t.store.products) ∧
      (start.run past).mover? e = some 1 ∧ (∃ r, t.refreshes[1]? = some r ∧ r.Failed) ∧
      (start.run (past ++ [e])).Shows [] .empty := by
  intro listing batch past e t
  obtain ⟨hone, hsteps⟩ := fetched_by_one_refresh (past ++ [e, .reply 0 (.value batch)])
  have hshown : t.store.orders ≠ [] := List.cons_ne_nil _ _
  have hfailed : Refresh.Failed ⟨_, none⟩ :=
    ⟨[(.getOrders, .value listing)], .getProductsBatch [7], ⟨"down", some 503, .null⟩, rfl⟩
  refine ⟨hshown, hone.resolve_left fun hnone => hshown hnone.1, rfl, ⟨_, rfl, hfailed⟩, ?_⟩
  exact (hsteps past e ⟨[.reply 0 (.value batch)], rfl⟩ 1 _ rfl rfl).1 hfailed

end Shopfront.Orders.Traffic
