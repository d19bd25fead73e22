import Shopfront.Orders.Operation
import Shopfront.Proofs.Catalog

/-! Products joined to values that name them. A list of values, the catalog and the orders each find
the products of one payload in their own way. Main statement: they find the same ones, of each id
the last in the payload (`joins_agree`). -/

namespace Shopfront

/-- The product is in the list, and behind its last place there is none with its id. -/
def LastOfItsId (r : Product) (products : List Product) : Prop :=
  ∃ before after, products = before ++ r :: after ∧ ∀ x ∈ after, x.id ≠ r.id

theorem lastOfItsId_of_lastWith? {id : Int} {r : Product} {products : List Product}
    (h : Product.lastWith? id products = some r) : LastOfItsId r products := by
  obtain ⟨hid, after, before, hsplit, hafter⟩ := List.find?_eq_some_iff_append.mp h
  have hid : r.id = id := beq_iff_eq.mp hid
  refine ⟨before.reverse, after.reverse, ?_, ?_⟩
  · rw [← List.reverse_inj, hsplit]
    simp
  · intro x hx
    have hother : (!x.id == id) = true := hafter x (List.mem_reverse.mp hx)
    rw [hid]
    exact bne_iff_ne.mp hother

namespace Catalog

variable {c : Catalog} {products : List Product}

theorem Indexes.lastOfItsId (h : c.Indexes products) :
    ∀ r ∈ c.products, LastOfItsId r products := by
  intro r hr
  have hget : c.get? r.id = some r := find?_of_nodup h.ids.nodup hr
  exact lastOfItsId_of_lastWith? ((h.last r.id).symm.trans hget)

/-- Values are joined with products as the index finds them. -/
theorem Indexes.joinIds_eq (h : c.Indexes products) (values : List Payload) :
    Product.joinIds (values.map Payload.id?) products = values.filterMap c.find? := by
  rw [Product.joinIds, List.filterMap_map]
  refine List.filterMap_congr fun v _ => ?_
  cases hid : v.id? with
  | none => simp [find?, hid]
  | some id => simp [find?, hid, h.last]

theorem contains_iff (c : Catalog) (v : Payload) : c.contains v = true ↔ c.find? v ≠ none := by
  cases hid : v.id? with
  | none => simp [contains, find?, hid]
  | some id =>
    simp only [contains, find?, hid, Option.bind_some, ← get?_isSome_iff]
    exact Option.isSome_iff_ne_none

/-- The title of the product with the id, or a text that names the id. -/
def titleOf (c : Catalog) (id : Int) : String :=
  ((c.find? (.int id)).map (·.title)).getD ("Item #" ++ Integer.text id)

theorem title_showItem (c : Catalog) (item : OrderItem) :
    (Orders.showItem c item).title = c.titleOf item.product := by
  simp only [Orders.showItem, titleOf, find?, Payload.id?, Option.bind_some]
  cases c.get? item.product <;> rfl

/-- **All joins of products agree.** Whatever comes in as products, a list of values is joined with
them as the index of the same products answers, value by value. The index has each id once, in the
order of first occurrences, and of each id the last product; it contains what it answers with a
product. A refresh of the orders that gets the same products shows each item under the title of the
product that the index answers, or else under its id. -/
theorem joins_agree (p : Payload) :
    (∀ values : List Payload, Product.joinIds (values.map Payload.id?) (Product.listOf p) =
      values.filterMap (ofPayload p).find?) ∧
    FirstOccurrences ((ofPayload p).products.map (·.id)) ((Product.listOf p).map (·.id)) ∧
    (∀ r ∈ (ofPayload p).products, LastOfItsId r (Product.listOf p)) ∧
    (∀ v, (ofPayload p).contains v = true ↔ (ofPayload p).find? v ≠ none) ∧
    ∀ (o : Orders) (orders : List Order),
      (Orders.resume o (.loadingProducts orders) (.value p)).state.shown.map
          (fun shown => (shown.order, shown.items.map fun i => (i.item, i.title))) =
        orders.map fun order =>
          (order, order.items.map fun item => (item, (ofPayload p).titleOf item.product)) := by
  have hindex : (ofPayload p).Indexes (Product.listOf p) := indexes_ofProducts (Product.listOf p)
  refine ⟨hindex.joinIds_eq, hindex.ids, hindex.lastOfItsId, contains_iff _, ?_⟩
  intro o orders
  have hstate : (Orders.resume o (.loadingProducts orders) (.value p)).state.shown =
      orders.map fun order => ⟨order, Order.statusLabel order.status,
        order.items.map (Orders.showItem (ofPayload p))⟩ := rfl
  rw [hstate, List.map_map]
  refine List.map_congr_left fun order _ => ?_
  rw [Function.comp_apply, List.map_map]
  refine congrArg (Prod.mk order) (List.map_congr_left fun item _ => ?_)
  exact congrArg (Prod.mk item) (title_showItem _ item)

/-- A product that comes twice, an entry without an id and an id that comes as a text, joined to
values of several kinds and to the items of an order. -/
theorem joins_agree_repeated :
    let p : Payload := .list [.object [("id", .int 7), ("name", .text "Old")],
      .object [("name", .text "Nameless")], .object [("id", .text "9"), ("name", .text "Nine")],
      .object [("id", .int 7), ("name", .text "New")]]
    let values : List Payload := [.text " 9 ", .null, .int 8, .float (Binary64.ofInt 7)]
    let item (product : Int) : OrderItem := ⟨product, 1, .zero⟩
    let order : Order := ⟨.number 1, "PAID", [item 7, item 8], .zero, none, ""⟩
    (Product.joinIds (values.map Payload.id?) (Product.listOf p)).map (fun r => (r.id, r.title)) =
        [(9, "Nine"), (7, "New")] ∧
      (ofPayload p).products.map (fun r => (r.id, r.title)) = [(7, "New"), (9, "Nine")] ∧
      (ofPayload p).contains (.float (Binary64.ofInt 7)) = true ∧
      (Orders.resume .empty (.loadingProducts [order]) (.value p)).state.shown.map
          (fun shown => (shown.order, shown.items.map fun i => (i.item, i.title))) =
        [(order, [(item 7, "New"), (item 8, "Item #8")])] := by
  intro p values item order
  obtain ⟨hjoin, _, _, hcontains, hshown⟩ := joins_agree p
  refine ⟨?_, by decide +kernel, (hcontains _).mpr (by decide +kernel), ?_⟩
  · rw [hjoin]
    decide +kernel
  · rw [hshown]
    decide +kernel

end Catalog

end Shopfront
