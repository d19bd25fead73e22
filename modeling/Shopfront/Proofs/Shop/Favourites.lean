import Mathlib.Data.List.Induction
import Shopfront.Proofs.Favourites.Details
import Shopfront.Proofs.Shop.Toggles

/-! The favourites of a shop as its operations interleave and replies land in any order. Products come
in for ids that were asked for some time before, so the ids of the moment may be others by then.
Main statement: no favourite ever occurs twice, products that come in are joined to the ids that were
asked for, and a listing that fails leaves the ids and the products alone (`favourites_joined`). -/

namespace Shopfront

open Favourites (Joined)

/-- An action that joins products to ids of the caller's own. -/
def Action.namesIds : Action → Bool
  | .applyDetails _ none => false
  | .applyDetails _ (some .null) => false
  | .applyDetails .. => true
  | _ => false

namespace Shop

theorem perform_applyDetails (s : Shop) {p : Payload} {ids : Option Payload}
    (h : (Action.applyDetails p ids).namesIds = false) :
    (s.perform (.applyDetails p ids)).shop.favourites =
      s.favourites.applyDetails (s.favourites.ids.map some) p := by
  cases ids with
  | none => rfl
  | some ids =>
    cases ids with
    | null => rfl
    | _ => cases h

theorem distinct_perform {s : Shop} (h : s.favourites.Distinct) {action : Action}
    (hids : action.namesIds = false) : (s.perform action).shop.favourites.Distinct := by
  -- `Performs` leaves the ids of a join open, so joins come first
  by_cases hjoin : ∃ p ids, action = .applyDetails p ids
  · obtain ⟨p, ids, rfl⟩ := hjoin
    rw [perform_applyDetails s hids]
    exact Favourites.distinct_applyDetails h h.ids p
  · suffices hp : ∀ {s'}, Performs s action s' → s'.favourites.Distinct from
      hp (s.perform_performs action)
    intro s' hp
    cases hp with
    | applyDetails p ids => exact absurd ⟨p, ids, rfl⟩ hjoin
    | applyFavourites p => exact Favourites.distinct_applyIds h p
    | resetFavourites | logout => exact Favourites.distinct_reset _
    | _ => exact h

namespace Traffic

variable {t : Traffic}

/-- No favourite occurs twice, and none among the ids that products are awaited for. -/
structure Distinct (t : Traffic) : Prop where
  store : t.shop.favourites.Distinct
  wanted : ∀ a ∈ t.favourites.calls.awaited, ∀ wanted ∈ a.point.wanted?, wanted.Nodup

/-! ## The ids asked for -/

/-- The ids whose products an event asks for: those that a beginning operation is for, or the
favourites when an operation goes on. -/
inductive RequestedBy (t : Traffic) : Event → List Int → Prop
  | begin {request wanted} :
      request.IsFor (t.begin (.favourites request)).shop.favourites.ids wanted →
      RequestedBy t (.begin (.favourites request)) wanted
  | land (landing) : RequestedBy t (.land landing) (t.land landing).shop.favourites.ids

theorem mem_awaited_favouritesStep {s : Favourites.Step} {a : Awaited Favourites.Point} :
    a ∈ (t.favouritesStep s).favourites.calls.awaited ↔
      a ∈ t.favourites.calls.awaited ∨ a ∈ s.progress.awaited? := by
  show a ∈ (t.favourites.record s).calls.awaited ↔ _
  rw [Favourites.Underway.awaited_record, List.mem_append, Option.mem_toList,
    Option.mem_def]

/-- An event adds a call for products only for the ids that it asks for. -/
theorem mem_awaited_handle {e : Event} {a : Awaited Favourites.Point}
    (h : a ∈ (t.handle e).favourites.calls.awaited) :
    a ∈ t.favourites.calls.awaited ∨ ∀ wanted ∈ a.point.wanted?, RequestedBy t e wanted := by
  cases e with
  | act action => exact .inl h
  | begin operation =>
    cases operation with
    | favourites request =>
      refine (mem_awaited_favouritesStep.mp h).imp_right fun hnew wanted hwanted => ?_
      exact .begin (Favourites.wanted_begin _ _ _ a hnew wanted hwanted)
    | cart request | refreshOrders => exact .inl h
  | land landing =>
    suffices hl : ∀ {t'}, Lands t landing t' → a ∈ t'.favourites.calls.awaited →
        a ∈ t.favourites.calls.awaited ∨
          ∀ wanted ∈ a.point.wanted?, wanted = t'.shop.favourites.ids by
      refine (hl (t.land_lands landing) h).imp_right fun hown wanted hwanted => ?_
      rw [hown wanted hwanted]
      exact .land landing
    intro t' hl hmem
    cases hl with
    | favourites reply ha =>
      exact (mem_awaited_favouritesStep.mp hmem).imp List.mem_of_mem_eraseIdx
        (Favourites.wanted_resume _ _ _ reply a)
    | turn hw =>
      exact (mem_awaited_favouritesStep.mp hmem).imp_right (Favourites.wanted_wake _ _ _ a)
    | missed | cart | orders => exact .inl hmem

theorem RequestedBy.nodup {e : Event} {wanted : List Int} (h : RequestedBy t e wanted)
    (hids : (t.handle e).shop.favourites.ids.Nodup) : wanted.Nodup := by
  cases h with
  | begin hfor => exact hfor.nodup hids
  | land _ => exact hids

/-! ## Steps and runs -/

theorem Distinct.store_handle (h : t.Distinct) {e : Event}
    (he : ∀ action, e = .act action → action.namesIds = false) :
    (t.handle e).shop.favourites.Distinct := by
  cases e with
  | act action => exact distinct_perform h.store (he action rfl)
  | begin operation =>
    cases operation with
    | favourites request => exact (Favourites.begin_begins request).distinct h.store
    | cart request | refreshOrders => exact h.store
  | land landing =>
    suffices hl : ∀ {t'}, Lands t landing t' → t'.shop.favourites.Distinct from
      hl (t.land_lands landing)
    intro t' hl
    cases hl with
    | favourites reply ha =>
      have hreceived := h.store.received (h.wanted _ (List.mem_of_getElem? ha)) reply
      exact (Favourites.resume_resumes _ reply).distinct hreceived
    | turn hw => exact (Favourites.wake_sends _ _).distinct ⟨h.store.ids, h.store.products⟩
    | missed | cart | orders => exact h.store

theorem Distinct.handle (h : t.Distinct) {e : Event}
    (he : ∀ action, e = .act action → action.namesIds = false) : (t.handle e).Distinct := by
  have hstore := h.store_handle he
  refine ⟨hstore, fun a ha wanted hwanted => ?_⟩
  rcases mem_awaited_handle ha with hold | hnew
  · exact h.wanted a hold wanted hwanted
  · exact (hnew wanted hwanted).nodup hstore.ids

theorem distinct_run (session : Session) (catalog : Catalog) (taxRate : Decimal)
    {events : List Event} (h : ∀ action, .act action ∈ events → action.namesIds = false) :
    ((start session catalog taxRate).run events).Distinct := by
  refine run_keeps ⟨⟨List.nodup_nil, List.nodup_nil⟩, fun a ha => ?_⟩ fun hd e he => hd.handle ?_
  · cases ha
  · rintro action rfl
    exact h action he

/-- Products that are awaited were asked for by an event of the past. -/
theorem requested_run {events : List Event} {a : Awaited Favourites.Point} {wanted : List Int}
    (hidle : t.favourites.calls.awaited = [])
    (ha : a ∈ (t.run events).favourites.calls.awaited) (hwanted : a.point.wanted? = some wanted) :
    ∃ past e, past ++ [e] <+: events ∧ RequestedBy (t.run past) e wanted := by
  induction events using List.reverseRecOn with
  | nil =>
    have hnone : a ∈ t.favourites.calls.awaited := ha
    rw [hidle] at hnone
    cases hnone
  | append_singleton past e ih =>
    rw [run_concat] at ha
    rcases mem_awaited_handle ha with hold | hnew
    · obtain ⟨past', e', hprefix, hrequested⟩ := ih hold
      exact ⟨past', e', hprefix.trans (List.prefix_append past [e]), hrequested⟩
    · exact ⟨past, e, List.prefix_refl _, hnew wanted hwanted⟩

/-! ## Replies -/

theorem favourites_land {place : Nat} {a : Awaited Favourites.Point}
    (ha : t.favourites.calls.awaited[place]? = some a) (reply : Reply) :
    (t.land (.favourites place reply)).shop.favourites =
      (Favourites.resume t.shop.isAuthenticated t.shop.favourites a.point reply).state := by
  simp only [land, ha]
  rfl

/-- **The favourites, whatever comes in between.** Let the operations of the stores interleave in any
way with what the caller does at once, a reset, a login or a logout included, and let each call be
answered in any order by a value, a failure or a fault; the caller brings no products for ids of its
own choice. At every moment no id is among the favourites twice and no product is shown twice, and a
value is a favourite exactly if it stands for one of the ids. Products that the caller brings are
joined to the ids of the moment. Each call for products is for ids that were asked for before, and the
products that answer it are joined to just these. A listing that fails leaves the ids and the products
as they are and only sets the error; its operation goes on from there as after any other listing, so
that the products change no more unless it goes on to those of no ids. -/
theorem favourites_joined (session : Session) (catalog : Catalog) (taxRate : Decimal)
    {events : List Event} (h : ∀ action, .act action ∈ events → action.namesIds = false) :
    let t := (start session catalog taxRate).run events
    let f := t.shop.favourites
    f.ids.Nodup ∧ (f.products.map (·.id)).Nodup ∧
    (∀ v, f.contains v = true ↔ ∃ id ∈ f.ids, v.id? = some id) ∧
    (∀ p, Joined f.ids p (t.handle (.act (.applyDetails p none))).shop.favourites.products) ∧
    (∀ place a wanted, t.favourites.calls.awaited[place]? = some a →
      a.call = .getProductsBatch wanted →
      (∃ past e, past ++ [e] <+: events ∧
        RequestedBy ((start session catalog taxRate).run past) e wanted) ∧
      ∀ p, Joined wanted p
        (t.handle (.land (.favourites place (.value p)))).shop.favourites.products) ∧
    ∀ place a failure, t.favourites.calls.awaited[place]? = some a → a.call = .getFavourites →
      let f' := (t.handle (.land (.favourites place (.failure failure)))).shop.favourites
      f'.ids = f.ids ∧ ∃ next, a.point = .loadingIds next ∧
        f' = (Favourites.afterIds { f with
          error := some (Favourites.idsError failure)
          idsPending := f.idsPending - 1 } next).state ∧
        (f.ids ≠ [] ∨ next = .nothing → f'.products = f.products) := by
  intro t f
  have hasks := (lined_run session catalog taxRate events).asks
  have hdistinct := distinct_run session catalog taxRate h
  refine ⟨hdistinct.store.ids, hdistinct.store.products, Favourites.contains_iff f,
    Favourites.joined_joinIds f.ids, fun place a wanted ha hcall => ⟨?_, fun p => ?_⟩, ?_⟩
  · have hmem := List.mem_of_getElem? ha
    exact requested_run rfl hmem (((hasks a hmem).eq_getProductsBatch_iff wanted).mp hcall)
  · have hwanted := ((hasks a (List.mem_of_getElem? ha)).eq_getProductsBatch_iff wanted).mp hcall
    rw [handle, favourites_land ha]
    exact Favourites.joined_resume _ f hwanted p
  · intro place a failure ha hcall f'
    have hask := hasks a (List.mem_of_getElem? ha)
    rw [hcall] at hask
    obtain ⟨next, hpoint⟩ := hask.exists_loadingIds
    have hf' : f' = (Favourites.afterIds { f with
        error := some (Favourites.idsError failure)
        idsPending := f.idsPending - 1 } next).state := by
      show (t.land (.favourites place (.failure failure))).shop.favourites = _
      rw [favourites_land ha, hpoint]
      rfl
    refine ⟨?_, next, hpoint, hf', fun hkeeps => ?_⟩
    · rw [hf', Favourites.ids_afterIds]
    · rw [hf']
      exact Favourites.products_afterIds _ hkeeps

/-- Products are asked for under ids of the caller's, brought for the favourites, and then come in.
The reply has a product for one of the ids. -/
theorem favourites_joined_named :
    let ask : Event :=
      .begin (.favourites (.refreshDetails (some (.list [.text "9", .int 7, .int 9]))))
    let bring : Event := .act (.applyDetails .null none)
    let p : Payload := .list [.object [("id", .int 7), ("name", .text "Old")],
      .object [("id", .int 8)], .object [("id", .text "7"), ("name", .text "New")]]
    let products := (((start ⟨some "t"⟩ .empty Cart.defaultTaxRate).run [ask, bring]).handle
      (.land (.favourites 0 (.value p)))).shop.favourites.products
    (∀ action, Event.act action ∈ [ask, bring] → action.namesIds = false) ∧
    Joined [9, 7] p products ∧ products = [⟨7, "New", .zero, none, ""⟩] := by
  intro ask bring p products
  have hown : ∀ action, Event.act action ∈ [ask, bring] → action.namesIds = false := by
    simp [ask, bring, Action.namesIds]
  obtain ⟨_, _, _, _, hcalls, _⟩ :=
    favourites_joined ⟨some "t"⟩ .empty Cart.defaultTaxRate hown
  exact ⟨hown, (hcalls 0 _ [9, 7] rfl rfl).2 p, by decide +kernel⟩

end Traffic

end Shop

end Shopfront
