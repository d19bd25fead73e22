import Shopfront.Proofs.Backend.Favourites
import Shopfront.Proofs.Favourites.Exchange

/-! A favourites store and a backend whose answers take their time. A call is worked out at some
moment, and what has been worked out lands at some later moment, in any order. The changes that the
backend has made are counted, so that a listing can be told to be out of date: it differs from the
favourites in the products that have been changed since (`Lists.change`). -/

namespace Shopfront.Favourites

/-- An answer that has not landed yet. -/
structure Ready where
  point : Point
  reply : Reply
  /-- How many changes the backend had made when the answer was worked out. -/
  stamp : Nat

structure Lag where
  store : Favourites
  underway : Underway
  memory : Memory
  /-- The calls that are worked out; those of `underway` still wait for it. -/
  ready : List Ready
  /-- The product and the outcome of each toggle that has ended. -/
  outcomes : List (Int × Outcome)
  /-- The products that have become favourites or none, in the order of the changes. -/
  changes : List Int
  /-- The stamp of the listing that has landed last. -/
  listed : Option Nat
  /-- The ids for which products were asked, when the products were last set. -/
  asked : Option (List Int)

/-- The changes that the backend has made, with that of a product unless it makes no difference. -/
def withChange (m m' : Memory) (changes : List Int) (product : Int) : List Int :=
  if m'.favourites = m.favourites then changes else changes ++ [product]

/-- The ids whose products a step sets, if it does. -/
def Point.asked? (point : Point) (f : Favourites) : Option (List Int) :=
  match point with
  | .loadingDetails wanted _ => some wanted
  | .loadingIds .details => if f.ids = [] then some [] else none
  | .loadingIds (.toggled _ before _) => if f.ids = [] ∧ before ≠ [] then some [] else none
  | _ => none

/-- The stamp of an answer that lists the ids. -/
def Ready.listed? (r : Ready) : Option Nat :=
  match r.point with
  | .loadingIds _ => some r.stamp
  | _ => none

namespace Lag

/-- What may happen next: a toggle begins, a call is worked out, an answer lands, or a woken toggle
takes its turn. -/
inductive Event where
  | toggle (product : Payload)
  | serve (place : Nat)
  | land (place : Nat)
  | turn (place : Nat)

def handle (x : Lag) : Event → Lag
  | .toggle product =>
    let s := begin true x.store (.toggle product)
    { x with store := s.state, underway := x.underway.record s }
  | .serve place =>
    match x.underway.calls.awaited[place]? with
    | some a =>
      let (memory, reply) := x.memory.serve true a.call
      let changes := match a.point.product? with
        | some product => withChange x.memory memory x.changes product
        | none => x.changes
      { x with
        underway := x.underway.takeCall place
        memory
        ready := x.ready ++ [⟨a.point, reply, changes.length⟩]
        changes }
    | none => x
  | .land place =>
    match x.ready[place]? with
    | some r =>
      let s := resume true x.store r.point r.reply
      { x with
        store := s.state
        underway := x.underway.record s
        ready := x.ready.eraseIdx place
        outcomes := x.outcomes ++ (r.point.ended? s.progress).toList
        listed := r.listed?.or x.listed
        asked := (r.point.asked? s.state).or x.asked }
    | none => x
  | .turn place =>
    match x.underway.woken[place]? with
    | some w =>
      let s := wake x.store w.turn w.ticket
      { x with store := s.state, underway := (x.underway.takeWoken place).record s }
    | none => x

def run (x : Lag) (events : List Event) : Lag := events.foldl handle x

/-- Nothing has begun. -/
def start (store : Favourites) (memory : Memory) : Lag :=
  ⟨store, .idle, memory, [], [], [], none, none⟩

/-- The product that is asked to be toggled. -/
def Event.product? : Event → Option Int
  | .toggle product => product.id?
  | _ => none

/-- The products of the toggles that have ended or are under way. -/
def products (x : Lag) : List Int :=
  x.outcomes.map (·.1) ++ (x.ready.filterMap (·.point.product?) ++
    x.underway.calls.awaited.filterMap (·.point.product?))

end Lag

/-! ## Listings -/

/-- The outcome of a toggle is what the ids show. -/
def Stands (ids : List Int) (product : Int) (outcome : Outcome) : Prop :=
  outcome = outcomeOf (decide (product ∉ ids))

/-- Ids that were listed after so many changes differ from the favourites in what was changed since. -/
structure Lists (favourites changes ids : List Int) (stamp : Nat) : Prop where
  le : stamp ≤ changes.length
  agrees : ∀ product, (product ∈ ids ↔ product ∈ favourites) ↔ product ∉ changes.drop stamp

variable {favourites favourites' changes ids : List Int} {stamp : Nat} {product : Int}
  {outcome : Outcome}

theorem lists_favourites (favourites changes : List Int) :
    Lists favourites changes favourites changes.length := by
  refine ⟨Nat.le_refl _, fun product => ?_⟩
  simp

/-- The product, which has not been changed before, becomes a favourite or none. -/
theorem Lists.change (h : Lists favourites changes ids stamp) (hnew : product ∉ changes)
    (hflip : product ∈ favourites' ↔ product ∉ favourites)
    (hkeep : ∀ other, other ≠ product → (other ∈ favourites' ↔ other ∈ favourites)) :
    Lists favourites' (changes ++ [product]) ids stamp := by
  refine ⟨?_, fun other => ?_⟩
  · have hle := h.le
    rw [List.length_append]
    omega
  · have hdrop : (changes ++ [product]).drop stamp = changes.drop stamp ++ [product] :=
      List.drop_append_of_le_length h.le
    have hagrees := h.agrees other
    rw [hdrop, List.mem_append, List.mem_singleton]
    by_cases he : other = product
    · subst he
      have hbefore : other ∈ ids ↔ other ∈ favourites :=
        hagrees.mpr fun hm => hnew (List.mem_of_mem_drop hm)
      rw [hbefore, hflip]
      tauto
    · rw [hkeep other he, hagrees]
      tauto

/-- What is shown of a toggle is right exactly if its change was made before the listing. -/
theorem Lists.stands_iff (h : Lists favourites changes ids stamp)
    (hstands : Stands favourites product outcome) :
    Stands ids product outcome ↔ product ∉ changes.drop stamp := by
  rw [← h.agrees product]
  have hinj : ∀ a b : Bool, outcomeOf a = outcomeOf b ↔ a = b := by decide
  rw [Stands, hstands, hinj, decide_eq_decide]
  tauto

/-! ## The backend's changes -/

/-- What a toggle's call makes of the favourites: its product stands as the toggle has come to, and
all others stand as before. -/
structure Toggles (m m' : Memory) (product : Int) (outcome : Outcome) : Prop where
  stands : Stands m'.favourites product outcome
  keeps : ∀ other, other ≠ product → (other ∈ m'.favourites ↔ other ∈ m.favourites)
  flips : m'.favourites ≠ m.favourites → (product ∈ m'.favourites ↔ product ∉ m.favourites)
  distinct : m'.favourites.Nodup

variable {m : Memory}

theorem act_addFavourite_toggles (hd : m.favourites.Nodup) (product : Int) :
    Toggles m (m.act (.addFavourite product)).1 product .added := by
  by_cases hmem : product ∈ m.favourites
  · have hsame : (m.act (.addFavourite product)).1.favourites = m.favourites := by
      simp [Memory.act, hmem]
    refine ⟨?_, fun other _ => by rw [hsame], fun hne => absurd hsame hne, hsame ▸ hd⟩
    rw [Stands, hsame]
    simp [hmem, outcomeOf]
  · have hchange := Memory.mem_act_addFavourite hmem
    refine ⟨?_, fun other hne => ?_, fun _ => ?_, Memory.nodup_act_addFavourite hd hmem⟩
    · simp [Stands, hchange, outcomeOf]
    · rw [hchange]
      exact or_iff_right hne
    · simp [hchange, hmem]

theorem act_removeFavourite_toggles (hd : m.favourites.Nodup) (product : Int) :
    Toggles m (m.act (.removeFavourite product)).1 product .removed := by
  have hchange := Memory.mem_act_removeFavourite hd product
  refine ⟨?_, fun other hne => ?_, fun hne => ?_, Memory.nodup_act_removeFavourite hd product⟩
  · simp [Stands, hchange, outcomeOf]
  · rw [hchange]
    exact and_iff_right hne
  · have hmem : product ∈ m.favourites := by
      by_contra hmem
      exact hne (List.erase_of_not_mem hmem)
    simp [hchange, hmem]

variable {m' : Memory}

theorem mem_withChange {other : Int} (h : other ∈ withChange m m' changes product) :
    other ∈ changes ∨ other = product := by
  unfold withChange at h
  split at h
  · exact .inl h
  · simpa using h

theorem Lists.toggle (h : Lists m.favourites changes ids stamp)
    (ht : Toggles m m' product outcome) (hnew : product ∉ changes) :
    Lists m'.favourites (withChange m m' changes product) ids stamp := by
  unfold withChange
  split
  · next hsame =>
    rw [hsame]
    exact h
  · next hne => exact h.change hnew (ht.flips hne) ht.keeps

theorem Stands.keep {other : Int} {shown : Outcome} (h : Stands m.favourites other shown)
    (ht : Toggles m m' product outcome) (hne : other ≠ product) :
    Stands m'.favourites other shown := by
  rw [Stands, decide_eq_decide.mpr (not_congr (ht.keeps other hne))]
  exact h

/-! ## What waits -/

/-- The backend's answer for the products of the ids. -/
def batch (m : Memory) (ids : List Int) : Payload :=
  m.productsPayload (ids.filterMap (m.products.lookup ·))

/-- The products that the backend has for the ids, in their order. -/
def joined (m : Memory) (ids : List Int) : List Product :=
  Product.joinIds (ids.map some) (Product.listOf (batch m ids))

theorem joined_nil (m : Memory) : joined m [] = [] := rfl

variable {changes' : List Int} {listed : Option Nat}

/-- A call that waits to be worked out. -/
inductive Due (favourites changes : List Int) (listed : Option Nat) : Call → Point → Prop
  | remove {turn before} : turn.product ∈ before → turn.product ∉ changes →
      Due favourites changes listed (.removeFavourite turn.product) (.toggling turn before .removed)
  | add {turn before} : turn.product ∉ before → turn.product ∉ changes →
      Due favourites changes listed (.addFavourite turn.product) (.toggling turn before .added)
  | list {turn before outcome} : Stands favourites turn.product outcome →
      ¬Stands before turn.product outcome →
      Due favourites changes listed .getFavourites (.loadingIds (.toggled turn before outcome))
  | details {turn outcome} (wanted) : listed ≠ none → Stands favourites turn.product outcome →
      Due favourites changes listed (.getProductsBatch wanted)
        (.loadingDetails wanted (.toggled turn outcome))

/-- An answer that waits to land. -/
inductive Held (m : Memory) (changes : List Int) (listed : Option Nat) : Ready → Prop
  | changed {turn before outcome} (p stamp) : Stands m.favourites turn.product outcome →
      ¬Stands before turn.product outcome →
      Held m changes listed ⟨.toggling turn before outcome, .value p, stamp⟩
  | listing {turn before outcome p stamp} : Stands m.favourites turn.product outcome →
      ¬Stands before turn.product outcome → Stands (idsOf p) turn.product outcome →
      Lists m.favourites changes (idsOf p) stamp →
      Held m changes listed ⟨.loadingIds (.toggled turn before outcome), .value p, stamp⟩
  | details {turn outcome} (wanted stamp) : listed ≠ none →
      Stands m.favourites turn.product outcome →
      Held m changes listed
        ⟨.loadingDetails wanted (.toggled turn outcome), .value (batch m wanted), stamp⟩

variable {call : Call} {point : Point} {r : Ready}

theorem Due.exists_product (h : Due favourites changes listed call point) :
    ∃ product, point.product? = some product := by
  cases h <;> exact ⟨_, rfl⟩

/-- Another toggle's change is made. -/
theorem Due.change (h : Due m.favourites changes listed call point)
    (ht : Toggles m m' product outcome) (hne : point.product? ≠ some product) :
    Due m'.favourites (withChange m m' changes product) listed call point := by
  have hnew : ∀ {turn : Turn}, some turn.product ≠ some product → turn.product ∉ changes →
      turn.product ∉ withChange m m' changes product := by
    intro turn hne hnot hmem
    rcases mem_withChange hmem with hmem | he
    · exact hnot hmem
    · exact hne (congrArg some he)
  cases h with
  | remove hmem hnot => exact .remove hmem (hnew hne hnot)
  | add hmem hnot => exact .add hmem (hnew hne hnot)
  | list hstands hbefore => exact .list (hstands.keep ht fun he => hne (congrArg some he)) hbefore
  | details wanted hlisted hstands =>
    exact .details wanted hlisted (hstands.keep ht fun he => hne (congrArg some he))

theorem Held.change (h : Held m changes listed r) (ht : Toggles m m' product outcome)
    (hne : r.point.product? ≠ some product) (hnew : product ∉ changes)
    (hbatch : ∀ ids, batch m' ids = batch m ids) :
    Held m' (withChange m m' changes product) listed r := by
  cases h with
  | changed p stamp hstands hbefore =>
    exact .changed p stamp (hstands.keep ht fun he => hne (congrArg some he)) hbefore
  | listing hstands hbefore hshown hlists =>
    exact .listing (hstands.keep ht fun he => hne (congrArg some he)) hbefore hshown
      (hlists.toggle ht hnew)
  | details wanted stamp hlisted hstands =>
    rw [← hbatch wanted]
    exact .details wanted stamp hlisted (hstands.keep ht fun he => hne (congrArg some he))

/-- An answer lands, which may be a listing. -/
theorem Due.land (h : Due favourites changes listed call point) (latest : Option Nat) :
    Due favourites changes (latest.or listed) call point := by
  cases h with
  | remove hmem hnot => exact .remove hmem hnot
  | add hmem hnot => exact .add hmem hnot
  | list hstands hbefore => exact .list hstands hbefore
  | details wanted hlisted hstands =>
    exact .details wanted (fun he => hlisted (Option.or_eq_none_iff.mp he).2) hstands

theorem Held.land (h : Held m changes listed r) (latest : Option Nat) :
    Held m changes (latest.or listed) r := by
  cases h with
  | changed p stamp hstands hbefore => exact .changed p stamp hstands hbefore
  | listing hstands hbefore hshown hlists => exact .listing hstands hbefore hshown hlists
  | details wanted stamp hlisted hstands =>
    exact .details wanted stamp (fun he => hlisted (Option.or_eq_none_iff.mp he).2) hstands

end Shopfront.Favourites
