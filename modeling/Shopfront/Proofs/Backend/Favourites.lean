import Mathlib.Data.List.Nodup
import Shopfront.Backend.Memory
import Shopfront.Favourites.Basic

/-! The favourites of the backend in memory. Main statements: a listing is read back as it is, in
whatever shape it comes (`idsOf_favouritesPayload`), and to add what is none, or to remove what is one,
changes the product and leaves all others (`mem_act_addFavourite`, `mem_act_removeFavourite`). -/

namespace Shopfront

namespace Favourites

theorem eraseDups_of_nodup {ids : List Int} (h : ids.Nodup) : ids.eraseDups = ids := by
  induction ids with
  | nil => rfl
  | cons id ids ih =>
    obtain ⟨hnew, hrest⟩ := List.nodup_cons.mp h
    have hkeep : (ids.filter fun other => !other == id) = ids := by
      refine List.filter_eq_self.mpr fun other hother => ?_
      have hne : other ≠ id := fun he => hnew (he ▸ hother)
      simpa using hne
    rw [List.eraseDups_cons, hkeep, ih hrest]

/-- The entries are numbered, and the number is not taken for the product. -/
theorem entryIds_favouriteEntries (ids : List Int) :
    (Memory.favouriteEntries ids).filterMap entryId? = ids := by
  have numbered : ∀ (ids : List Int) (number : Nat → Nat),
      (ids.mapIdx fun i id => Payload.object
        [("id", .int (number i)), ("sneaker_id", .int id)]).filterMap entryId? = ids := by
    intro ids
    induction ids with
    | nil => exact fun _ => rfl
    | cons id ids ih =>
      intro number
      have hentry : entryId? (.object [("id", .int (number 0)), ("sneaker_id", .int id)]) =
          some id := rfl
      rw [List.mapIdx_cons, List.filterMap_cons_some hentry]
      exact congrArg _ (ih fun i => number (i + 1))
  exact numbered ids (· + 1)

theorem idsOf_favouritesPayload (m : Memory) :
    idsOf m.favouritesPayload = m.favourites.eraseDups := by
  have hentries : (Envelope.favourites.entries m.favouritesPayload).filterMap entryId? =
      m.favourites := by
    unfold Memory.favouritesPayload
    cases m.favouriteShape with
    | ids =>
      show (m.favourites.map Payload.int).filterMap entryId? = m.favourites
      rw [List.filterMap_map]
      exact List.filterMap_some
    | objects => exact entryIds_favouriteEntries m.favourites
    | wrapped => exact entryIds_favouriteEntries m.favourites
  rw [idsOf, hentries]

theorem idsOf_favouritesPayload_of_nodup {m : Memory} (h : m.favourites.Nodup) :
    idsOf m.favouritesPayload = m.favourites := by
  rw [idsOf_favouritesPayload, eraseDups_of_nodup h]

end Favourites

namespace Memory

variable {m : Memory}

theorem mem_act_addFavourite {product : Int} (h : product ∉ m.favourites) (other : Int) :
    other ∈ (m.act (.addFavourite product)).1.favourites ↔
      other = product ∨ other ∈ m.favourites := by
  simp [act, h, or_comm]

theorem nodup_act_addFavourite {product : Int} (hd : m.favourites.Nodup)
    (h : product ∉ m.favourites) :
    (m.act (.addFavourite product)).1.favourites.Nodup := by
  have happend : (m.act (.addFavourite product)).1.favourites = m.favourites ++ [product] := by
    simp [act, h]
  rw [happend, List.nodup_append]
  refine ⟨hd, List.nodup_singleton _, fun other hother new hnew he => h ?_⟩
  cases List.mem_singleton.mp hnew
  exact he ▸ hother

theorem mem_act_removeFavourite (hd : m.favourites.Nodup) (product other : Int) :
    other ∈ (m.act (.removeFavourite product)).1.favourites ↔
      other ≠ product ∧ other ∈ m.favourites := hd.mem_erase_iff

theorem nodup_act_removeFavourite (hd : m.favourites.Nodup) (product : Int) :
    (m.act (.removeFavourite product)).1.favourites.Nodup := hd.erase product

end Memory

end Shopfront
