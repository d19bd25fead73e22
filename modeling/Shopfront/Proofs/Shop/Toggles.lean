import Mathlib.Data.List.Induction
import Shopfront.Proofs.Favourites.Toggles
import Shopfront.Proofs.Shop.Action
import Shopfront.Proofs.Shop.Traffic

/-! Toggles of one product across resets. In one era the toggles of a product take turns. A reset, as
a logout makes it, starts a new era, and toggles of the new era do not wait for those of an earlier
one that are still under way. Main statement: changes of one favourite never overlap exactly as long
as no toggle asks for its change while the change of another era's toggle is outstanding
(`serialized_iff`). -/

namespace Shopfront

/-- The product that a call makes a favourite or none. -/
def Call.toggled? : Call → Option Int
  | .addFavourite product => some product
  | .removeFavourite product => some product
  | _ => none

/-- Whether the favourites are reset. -/
def Action.resets : Action → Bool
  | .resetFavourites => true
  | .logout => true
  | _ => false

theorem Favourites.Asks.toggled? {call : Call} {point : Favourites.Point}
    (h : Favourites.Asks call point) : call.toggled? = point.changing?.map (·.product) := by
  cases h <;> rfl

namespace Shop

/-- What an action leaves of the turns: the queues, and the era unless it is a reset. -/
theorem turns_perform (s : Shop) (action : Action) :
    let f := (s.perform action).shop.favourites
    f.queues = s.favourites.queues ∧ f.tickets = s.favourites.tickets ∧
      (action.resets = false → f.era = s.favourites.era) := by
  suffices hp : ∀ {s' : Shop}, Performs s action s' →
      s'.favourites.queues = s.favourites.queues ∧ s'.favourites.tickets = s.favourites.tickets ∧
        (action.resets = false → s'.favourites.era = s.favourites.era) from
    hp (s.perform_performs action)
  intro s' hp
  cases hp with
  | logout | resetFavourites => exact ⟨rfl, rfl, nofun⟩
  | _ => exact ⟨rfl, rfl, fun _ => rfl⟩

namespace Traffic

/-- No two changes of one favourite are outstanding at once. -/
def Serialized (t : Traffic) : Prop :=
  (t.favourites.calls.awaited.filterMap (·.call.toggled?)).Nodup

/-- The turn in which an event makes a toggle ask for its change. -/
def turnTaken? (t : Traffic) : Event → Option Favourites.Turn
  | .begin (.favourites request) =>
    Favourites.turnTaken? t.shop.isAuthenticated t.shop.favourites request
  | .land (.turn place) => t.favourites.woken[place]?.map (·.turn)
  | _ => none

/-- A toggle asks for its change while the change of another era's toggle of the product is
outstanding. -/
def Collides (t : Traffic) (e : Event) : Prop :=
  ∃ turn ∈ t.turnTaken? e, ∃ era, era ≠ turn.era ∧ ⟨turn.product, era⟩ ∈ t.favourites.changes

/-- Every turn stands as it should. -/
def Lined (t : Traffic) : Prop :=
  Favourites.Lined t.shop.favourites.queues t.shop.favourites.tickets none t.favourites

variable {t : Traffic}

theorem Lined.begin (h : t.Lined) (operation : Operation) : (t.begin operation).Lined := by
  cases operation with
  | favourites request => exact Favourites.Lined.begin h _ request
  | cart request => exact h
  | refreshOrders => exact h

theorem Lined.land (h : t.Lined) (landing : Landing) : (t.land landing).Lined := by
  suffices hl : ∀ {t'}, Lands t landing t' → t'.Lined from hl (t.land_lands landing)
  intro t' hl
  cases hl with
  | favourites reply ha => exact Favourites.Lined.resume h ha _ reply
  | turn hw => exact Favourites.Lined.wake h hw
  | missed | cart | orders => exact h

theorem Lined.handle (h : t.Lined) (e : Event) : (t.handle e).Lined := by
  cases e with
  | act action =>
    obtain ⟨hqueues, htickets, _⟩ := t.shop.turns_perform action
    rw [Lined, Traffic.handle, hqueues, htickets]
    exact h
  | begin operation => exact h.begin operation
  | land landing => exact h.land landing

theorem lined_run (session : Session) (catalog : Catalog) (taxRate : Decimal)
    (events : List Event) : ((start session catalog taxRate).run events).Lined := by
  refine run_keeps ?_ fun h e _ => h.handle e
  exact Favourites.lined_idle 0

/-! ## Changes of one product -/

theorem Lined.serialized_iff_nodup (h : t.Lined) :
    t.Serialized ↔ (t.favourites.changes.map (·.product)).Nodup := by
  rw [Serialized, Favourites.Underway.changes, List.map_filterMap,
    List.filterMap_congr fun a ha => (h.asks a ha).toggled?]

/-- An event adds the change of the toggle that it lets ask, and no other. -/
theorem changes_handle (t : Traffic) (e : Event) :
    ∃ kept, kept.Sublist t.favourites.changes ∧
      (t.turnTaken? e ≠ none → kept = t.favourites.changes) ∧
      (t.handle e).favourites.changes = kept ++ (t.turnTaken? e).toList := by
  have idle : t.turnTaken? e = none → (t.handle e).favourites.changes.Sublist t.favourites.changes →
      ∃ kept, kept.Sublist t.favourites.changes ∧
        (t.turnTaken? e ≠ none → kept = t.favourites.changes) ∧
        (t.handle e).favourites.changes = kept ++ (t.turnTaken? e).toList := by
    intro hnone hsub
    exact ⟨_, hsub, fun h => absurd hnone h, by simp [hnone]⟩
  cases e with
  | act action => exact idle rfl (List.Sublist.refl _)
  | begin operation =>
    cases operation with
    | favourites request =>
      exact ⟨_, List.Sublist.refl _, fun _ => rfl, t.favourites.changes_begin _ _ request⟩
    | cart request | refreshOrders => exact idle rfl (List.Sublist.refl _)
  | land landing =>
    cases landing with
    | favourites place reply =>
      refine idle rfl ?_
      simp only [handle, land]
      split
      · next a _ =>
        show ((t.favourites.takeCall place).record _).changes.Sublist _
        rw [Favourites.Underway.changes_resume]
        exact t.favourites.changes_takeCall place
      · exact List.Sublist.refl _
    | turn place =>
      cases hw : t.favourites.woken[place]? with
      | none =>
        refine idle (by simp [turnTaken?, hw]) ?_
        simp only [handle, land, hw]
        exact List.Sublist.refl _
      | some w =>
        refine ⟨_, List.Sublist.refl _, fun _ => rfl, ?_⟩
        simp only [handle, land, hw, turnTaken?]
        exact (t.favourites.takeWoken place).changes_wake _ _ _
    | cart place reply | orders place reply =>
      refine idle rfl ?_
      simp only [handle, land]
      split <;> exact List.Sublist.refl _

theorem serialized_handle_iff (h : t.Lined) (hs : t.Serialized) (e : Event) :
    (t.handle e).Serialized ↔ ¬t.Collides e := by
  have hnext := h.handle e
  have hnodup := Favourites.Underway.nodup_changes hnext
  rw [h.serialized_iff_nodup] at hs
  rw [hnext.serialized_iff_nodup]
  obtain ⟨kept, hsub, hall, hchanges⟩ := t.changes_handle e
  rw [hchanges] at hnodup ⊢
  cases hturn : t.turnTaken? e with
  | none =>
    rw [Option.toList_none, List.append_nil]
    refine iff_of_true (hs.sublist (hsub.map _)) ?_
    rintro ⟨turn, hmem, _⟩
    rw [hturn] at hmem
    cases hmem
  | some turn =>
    obtain rfl := hall (by simp [hturn])
    rw [hturn, Option.toList_some, List.nodup_append] at hnodup
    rw [Option.toList_some, List.map_append, List.nodup_append]
    constructor
    · rintro ⟨_, _, hnew⟩ ⟨turn', hmem, era, _, hbusy⟩
      rw [hturn] at hmem
      cases hmem
      exact hnew turn.product (List.mem_map.mpr ⟨_, hbusy, rfl⟩) turn.product
        List.mem_cons_self rfl
    · intro hfree
      refine ⟨hs, List.nodup_singleton _, fun product hp product' hp' he => ?_⟩
      obtain ⟨other, hother, rfl⟩ := List.mem_map.mp hp
      cases List.mem_singleton.mp hp'
      obtain ⟨product, era⟩ := other
      cases he
      refine hfree ⟨turn, hturn, era, fun hera => ?_, hother⟩
      -- in its own era the turn was free
      cases hera
      exact hnodup.2.2 turn hother turn List.mem_cons_self rfl

/-- **When changes of a favourite overlap.** Let toggles, refreshes and the operations of the other
stores interleave with logins and logouts in any way, and let replies land in any order. Two changes
of one favourite are never outstanding at once if and only if no toggle asks for its change while the
change of another era's toggle of the product is outstanding. -/
theorem serialized_iff (session : Session) (catalog : Catalog) (taxRate : Decimal)
    (events : List Event) :
    (∀ past, past <+: events → ((start session catalog taxRate).run past).Serialized) ↔
      ∀ past e, past ++ [e] <+: events →
        ¬((start session catalog taxRate).run past).Collides e := by
  have hlined := lined_run session catalog taxRate
  constructor
  · intro hs past e hp
    have hpast := hs past ((List.prefix_append past [e]).trans hp)
    have hnext := hs _ hp
    rw [run_concat] at hnext
    exact (serialized_handle_iff (hlined past) hpast e).mp hnext
  · intro hfree past hp
    induction past using List.reverseRecOn with
    | nil => exact List.nodup_nil
    | append_singleton past e ih =>
      have hpast := ih ((List.prefix_append past [e]).trans hp)
      rw [run_concat]
      exact (serialized_handle_iff (hlined past) hpast e).mpr (hfree past e hp)

/-- A toggle of the new era does not wait for the one that was under way at the logout. -/
theorem overlapping_changes :
    let t := (start ⟨some "t"⟩ .empty Cart.defaultTaxRate).run
      [.begin (.favourites (.toggle (.int 7))), .act .logout, .act (.login (.text "u")),
        .begin (.favourites (.toggle (.int 7)))]
    t.favourites.calls.awaited.filterMap (·.call.toggled?) = [7, 7] ∧ ¬t.Serialized := by
  have htoggled : (((start ⟨some "t"⟩ .empty Cart.defaultTaxRate).run
      [.begin (.favourites (.toggle (.int 7))), .act .logout, .act (.login (.text "u")),
        .begin (.favourites (.toggle (.int 7)))]).favourites.calls.awaited.filterMap
          (·.call.toggled?)) = [7, 7] := by
    decide +kernel
  exact ⟨htoggled, fun hs => by rw [Serialized, htoggled] at hs; exact absurd hs (by decide)⟩

/-! ## Resets while no toggle is under way -/

def Event.resets : Event → Bool
  | .act action => action.resets
  | _ => false

/-- A toggle under way has been so before, or has begun in the era of the moment. -/
theorem mem_turns_handle {e : Event} {turn : Favourites.Turn}
    (h : turn ∈ (t.handle e).favourites.turns) :
    turn ∈ t.favourites.turns ∨
      t.shop.isAuthenticated = true ∧ turn.era = t.shop.favourites.era := by
  cases e with
  | act action => exact .inl h
  | begin operation =>
    cases operation with
    | favourites request =>
      have hmem := (t.favourites.turns_begin _ _ request).mem_iff.mp h
      rw [List.mem_append, Option.mem_toList] at hmem
      exact hmem.symm.imp_right Favourites.turnFor?_eq_some
    | cart request | refreshOrders => exact .inl h
  | land landing =>
    left
    suffices hl : ∀ {t'}, Lands t landing t' → turn ∈ t'.favourites.turns →
        turn ∈ t.favourites.turns from hl (t.land_lands landing) h
    intro t' hl hmem
    cases hl with
    | favourites reply ha => exact t.favourites.mem_turns_resume ha _ _ reply hmem
    | turn hw => exact (t.favourites.turns_woken hw _).mem_iff.mp hmem
    | missed | cart | orders => exact hmem

theorem era_handle {e : Event} (h : e.resets = false) :
    (t.handle e).shop.favourites.era = t.shop.favourites.era := by
  cases e with
  | act action => exact (t.shop.turns_perform action).2.2 h
  | begin operation =>
    cases operation with
    | favourites request => exact (Favourites.begin_begins request).era
    | cart request | refreshOrders => rfl
  | land landing =>
    suffices hl : ∀ {t'}, Lands t landing t' → t'.shop.favourites.era = t.shop.favourites.era from
      hl (t.land_lands landing)
    intro t' hl
    cases hl with
    | favourites _ _ => exact (Favourites.resume_resumes _ _).era
    | turn _ => exact (Favourites.wake_sends _ _).era
    | missed | cart | orders => rfl

/-- All toggles under way are of the present era. -/
def Current (t : Traffic) : Prop := ∀ turn ∈ t.favourites.turns, turn.era = t.shop.favourites.era

theorem Current.handle (h : t.Current) {e : Event}
    (he : e.resets = true → t.favourites.turns = []) : (t.handle e).Current := by
  intro turn hturn
  cases hresets : e.resets with
  | true =>
    have hidle := he hresets
    cases e with
    | act action =>
      have hturn : turn ∈ t.favourites.turns := hturn
      rw [hidle] at hturn
      cases hturn
    | begin operation => cases hresets
    | land landing => cases hresets
  | false =>
    rw [era_handle hresets]
    rcases mem_turns_handle hturn with hold | ⟨_, hnew⟩
    · exact h turn hold
    · exact hnew

/-- In one era there is one turn for a product. -/
theorem Lined.serialized_of_current (h : t.Lined) (hc : t.Current) : t.Serialized := by
  rw [h.serialized_iff_nodup]
  refine (Favourites.Underway.nodup_changes h).map_on ?_
  rintro ⟨product, era⟩ hturn ⟨product', era'⟩ hturn' he
  cases he
  have hera : era = _ := hc _ (Favourites.Underway.mem_turns_of_mem_changes hturn)
  have hera' : era' = _ := hc _ (Favourites.Underway.mem_turns_of_mem_changes hturn')
  rw [hera, hera']

/-- Changes of one favourite never overlap if no toggle is under way at a reset. -/
theorem serialized_of_idle_resets (session : Session) (catalog : Catalog) (taxRate : Decimal)
    {events : List Event}
    (h : ∀ past e, past ++ [e] <+: events → e.resets = true →
      ((start session catalog taxRate).run past).favourites.turns = [])
    {past : List Event} (hp : past <+: events) :
    ((start session catalog taxRate).run past).Serialized := by
  refine (lined_run session catalog taxRate past).serialized_of_current ?_
  induction past using List.reverseRecOn with
  | nil => exact fun _ hturn => nomatch hturn
  | append_singleton past e ih =>
    rw [run_concat]
    exact (ih ((List.prefix_append past [e]).trans hp)).handle (h past e hp)

end Traffic

end Shop

end Shopfront
