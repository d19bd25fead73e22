import Mathlib.Logic.Basic
import Shopfront.Favourites.Operation

/-! What fills an empty favourites store when nobody is logged in. Operations under way go on without
a credential; of what they do only a reply to a load brings anything, if there is something in it
(`isEmpty_resume_iff`). -/

namespace Shopfront.Favourites

def IsEmpty (f : Favourites) : Prop := f.ids = [] ∧ f.products = []

/-- Replies that fill an empty store. Nothing else does, as all other steps keep what there is or
drop it. -/
inductive Brings : Point → Reply → Prop
  | ids {next p} : idsOf p ≠ [] → Brings (.loadingIds next) (.value p)
  | products {wanted next p product} : product ∈ Product.listOf p → product.id ∈ wanted →
      Brings (.loadingDetails wanted next) (.value p)

theorem joinIds_eq_nil_iff {wanted : List Int} {products : List Product} :
    Product.joinIds (wanted.map some) products = [] ↔ ∀ p ∈ products, p.id ∉ wanted := by
  have hlast : ∀ id, Product.lastWith? id products = none ↔ ∀ p ∈ products, p.id ≠ id := by
    intro id
    simp [Product.lastWith?, List.find?_eq_none]
  rw [Product.joinIds, List.filterMap_eq_nil_iff]
  constructor
  · intro h p hp hw
    exact (hlast p.id).mp (h _ (List.mem_map_of_mem hw)) p hp rfl
  · intro h id? hid
    obtain ⟨id, hw, rfl⟩ := List.mem_map.mp hid
    exact (hlast id).mpr fun p hp he => h p hp (he ▸ hw)

theorem brings_ids_iff {next : AfterIds} {p : Payload} :
    Brings (.loadingIds next) (.value p) ↔ ¬idsOf p = [] := by
  refine ⟨fun hb => ?_, .ids⟩
  cases hb
  assumption

theorem brings_details_iff {wanted : List Int} {next : AfterDetails} {p : Payload} :
    Brings (.loadingDetails wanted next) (.value p) ↔
      ¬Product.joinIds (wanted.map some) (Product.listOf p) = [] := by
  rw [joinIds_eq_nil_iff]
  constructor
  · rintro (_ | ⟨hp, hw⟩) hn
    exact hn _ hp hw
  · intro hn
    obtain ⟨product, hn⟩ := not_forall.mp hn
    obtain ⟨hp, hw⟩ := Classical.not_imp.mp hn
    exact .products hp (not_not.mp hw)

variable {f : Favourites}

theorem isEmpty_afterDetails (next : AfterDetails) :
    (afterDetails f next).state.IsEmpty ↔ f.IsEmpty := by cases next <;> exact Iff.rfl

theorem isEmpty_loadDetails (h : f.products = []) (wanted : List Int) (next : AfterDetails) :
    (loadDetails f wanted next).state.IsEmpty ↔ f.IsEmpty := by
  unfold loadDetails
  split
  · rw [isEmpty_afterDetails, IsEmpty, IsEmpty, h]
  · exact Iff.rfl

theorem isEmpty_afterIds (h : f.products = []) (next : AfterIds) :
    (afterIds f next).state.IsEmpty ↔ f.IsEmpty := by
  cases next with
  | nothing => exact Iff.rfl
  | details => exact isEmpty_loadDetails h _ _
  | toggled turn before outcome =>
    simp only [afterIds]
    split
    · exact Iff.rfl
    · exact isEmpty_loadDetails h _ _

/-- Without a credential there are no ids. -/
theorem isEmpty_loadIds (f : Favourites) (next : AfterIds) :
    (loadIds false f next).state.IsEmpty :=
  (isEmpty_afterIds (f := f.clear) rfl next).mpr ⟨rfl, rfl⟩

theorem isEmpty_abandon (turn : Option Turn) (fault : Fault) :
    (abandon f turn fault).state.IsEmpty ↔ f.IsEmpty := by cases turn <;> exact Iff.rfl

theorem isEmpty_wake (turn : Turn) (ticket : Nat) :
    (wake f turn ticket).state.IsEmpty ↔ f.IsEmpty := by
  simp only [wake, sendToggle]
  split <;> exact Iff.rfl

theorem isEmpty_begin (h : f.IsEmpty) (request : Request) :
    (begin false f request).state.IsEmpty := by
  cases request with
  | refreshIds => exact isEmpty_loadIds f _
  | refreshDetails ids =>
    cases ids with
    | none => exact (isEmpty_loadDetails h.2 _ _).mpr h
    | some ids =>
      simp only [begin]
      split
      · exact (isEmpty_loadDetails h.2 _ _).mpr h
      · exact h
  | resync => exact isEmpty_loadIds f _
  | toggle product => exact h

theorem isEmpty_resume_iff (h : f.IsEmpty) (point : Point) (reply : Reply) :
    (resume false f point reply).state.IsEmpty ↔ ¬Brings point reply := by
  have kept : ∀ {s : Step}, (s.state.IsEmpty ↔ f.IsEmpty) → ¬Brings point reply →
      (s.state.IsEmpty ↔ ¬Brings point reply) := fun hs hb => iff_of_true (hs.mpr h) hb
  cases point with
  | loadingIds next =>
    cases reply with
    | value p =>
      rw [brings_ids_iff, not_not]
      exact (isEmpty_afterIds (f := releaseIds { applyIds p f with error := none }) h.2 next).trans
        (and_iff_left h.2)
    | failure failure => exact kept (isEmpty_afterIds (by exact h.2) next) nofun
    | fault fault => exact kept (isEmpty_abandon next.turn? fault) nofun
  | loadingDetails wanted next =>
    cases reply with
    | value p =>
      rw [brings_details_iff, not_not]
      exact (isEmpty_afterDetails next).trans (and_iff_right h.1)
    | failure failure =>
      refine kept (s := afterDetails _ next) ((isEmpty_afterDetails next).trans ?_) nofun
      exact ⟨fun _ => h, fun _ => ⟨h.1, rfl⟩⟩
    | fault fault => exact kept (isEmpty_abandon next.turn? fault) nofun
  | toggling turn before outcome =>
    cases reply with
    | value p => exact iff_of_true (isEmpty_loadIds _ _) nofun
    | failure failure => exact kept Iff.rfl nofun
    | fault fault => exact kept (isEmpty_abandon (some turn) fault) nofun

end Shopfront.Favourites
