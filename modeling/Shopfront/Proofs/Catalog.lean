import Mathlib.Data.List.Induction
import Mathlib.Data.List.Perm.Basic
import Shopfront.Catalog
import Shopfront.Proofs.Keyed

/-! A catalog as an index of products. Main statement: the catalog of a list of products has their ids
in the order in which these first occur, and under each id the last product with it
(`indexes_ofProducts`). No other catalog has (`Indexes.eq`). -/

namespace Shopfront

section

variable {α : Type} [DecidableEq α]

/-- The values of a list, each once, in the order in which they first occur. -/
structure FirstOccurrences (distinct all : List α) : Prop where
  mem_iff : ∀ x, x ∈ distinct ↔ x ∈ all
  ordered : distinct.Pairwise fun x y => all.idxOf x < all.idxOf y

theorem eraseDups_concat (xs : List α) (x : α) :
    (xs ++ [x]).eraseDups = if x ∈ xs then xs.eraseDups else xs.eraseDups ++ [x] := by
  rw [List.eraseDups_append]
  split
  · next h => simp [List.removeAll, h]
  · next h => simp [List.removeAll, h, List.eraseDups_cons]

theorem firstOccurrences_eraseDups (xs : List α) : FirstOccurrences xs.eraseDups xs := by
  refine ⟨fun x => List.mem_eraseDups, ?_⟩
  induction xs using List.reverseRecOn with
  | nil => exact List.Pairwise.nil
  | append_singleton xs x ih =>
    -- what stands in front of the last value keeps its place
    have hplace : ∀ y ∈ xs.eraseDups, (xs ++ [x]).idxOf y = xs.idxOf y := fun y hy => by
      rw [List.idxOf_append, if_pos (List.mem_eraseDups.mp hy)]
    have hfront : xs.eraseDups.Pairwise fun y z => (xs ++ [x]).idxOf y < (xs ++ [x]).idxOf z := by
      refine ih.imp_of_mem fun hy hz hlt => ?_
      rwa [hplace _ hy, hplace _ hz]
    rw [eraseDups_concat]
    split
    · exact hfront
    · next hnew =>
      refine List.pairwise_append.mpr ⟨hfront, List.pairwise_singleton .., fun y hy z hz => ?_⟩
      obtain rfl := List.mem_singleton.mp hz
      have hlast : (xs ++ [z]).idxOf z = xs.length := by
        rw [List.idxOf_append, if_neg hnew, List.idxOf_cons_self, Nat.zero_add]
      rw [hplace y hy, hlast]
      exact List.idxOf_lt_length_of_mem (List.mem_eraseDups.mp hy)

theorem FirstOccurrences.nodup {distinct all : List α} (h : FirstOccurrences distinct all) :
    distinct.Nodup :=
  h.ordered.imp fun {x y} hlt (he : x = y) => Nat.lt_irrefl _ (he ▸ hlt)

theorem FirstOccurrences.eq {distinct distinct' all : List α} (h : FirstOccurrences distinct all)
    (h' : FirstOccurrences distinct' all) : distinct = distinct' := by
  have hperm : distinct.Perm distinct' :=
    (List.perm_ext_iff_of_nodup h.nodup h'.nodup).mpr fun x =>
      (h.mem_iff x).trans (h'.mem_iff x).symm
  exact hperm.eq_of_pairwise (fun _ _ _ _ hlt hgt => absurd hgt (Nat.lt_asymm hlt)) h.ordered
    h'.ordered

end

namespace Catalog

/-- The catalog has the products' ids in the order of their first occurrences, and under each of them
the last product that has it. -/
structure Indexes (c : Catalog) (products : List Product) : Prop where
  ids : FirstOccurrences (c.products.map (·.id)) (products.map (·.id))
  last : ∀ id, c.get? id = Product.lastWith? id products

theorem ofProducts_concat (products : List Product) (p : Product) :
    ofProducts (products ++ [p]) = (ofProducts products).insert p :=
  List.foldl_append ..

theorem ids_ofProducts (products : List Product) :
    (ofProducts products).products.map (·.id) = (products.map (·.id)).eraseDups := by
  induction products using List.reverseRecOn with
  | nil => rfl
  | append_singleton products p ih =>
    rw [ofProducts_concat, insert, map_putBy, ih, List.map_append, List.map_singleton,
      eraseDups_concat]
    simp only [List.mem_eraseDups]

theorem get?_ofProducts (products : List Product) (id : Int) :
    (ofProducts products).get? id = Product.lastWith? id products := by
  induction products using List.reverseRecOn with
  | nil => rfl
  | append_singleton products p ih =>
    rw [get?] at ih
    rw [ofProducts_concat, insert, get?, find?_putBy, ih, Product.lastWith?, Product.lastWith?,
      List.reverse_append, List.reverse_singleton, List.singleton_append, List.find?_cons]
    by_cases h : p.id = id
    · simp [h]
    · rw [if_neg h, beq_eq_false_iff_ne.mpr h]

theorem indexes_ofProducts (products : List Product) : (ofProducts products).Indexes products where
  ids := by
    rw [ids_ofProducts]
    exact firstOccurrences_eraseDups _
  last := get?_ofProducts products

/-- An index holds, for each of its ids, the last product with it. -/
theorem Indexes.products_eq {c : Catalog} {products : List Product} (h : c.Indexes products) :
    c.products = (c.products.map (·.id)).filterMap (Product.lastWith? · products) := by
  have hfound : ∀ p ∈ c.products, Product.lastWith? p.id products = some p := fun p hp => by
    rw [← h.last, get?]
    exact find?_of_nodup h.ids.nodup hp
  rw [List.filterMap_map]
  exact ((List.filterMap_congr hfound).trans List.filterMap_some).symm

theorem Indexes.eq {c c' : Catalog} {products : List Product} (h : c.Indexes products)
    (h' : c'.Indexes products) : c = c' := by
  have hproducts : c.products = c'.products := by
    rw [h.products_eq, h'.products_eq, h.ids.eq h'.ids]
  exact congrArg Catalog.mk hproducts

end Catalog

end Shopfront
