import Shopfront.Cart.Line
import Shopfront.Proofs.Backend.Favourites
import Shopfront.Proofs.Catalog
import Shopfront.Proofs.Number.Integer

/-! Shapes of a listing. A listing comes bare or under one of its keys, and an entry of the favourites
is an id, the text of one, or an object that names it under the first of its keys that is set. Main
statement: what is read is the same in every shape, for favourites the ids at their first places
(`read_in_every_shape`). -/

namespace Shopfront

/-- The first of the keys under which there is more than null holds the value. -/
def Fields.HoldsFirst (fields : Fields) (keys : List String) (value : Payload) : Prop :=
  ∃ before key after, keys = before ++ key :: after ∧ fields.get key = value ∧ value ≠ .null ∧
    ∀ k ∈ before, fields.get k = .null

/-- A payload lists the entries: bare, or under one of the keys with nothing under the others. -/
inductive Envelope.Carries (e : Envelope) (entries : List Payload) : Payload → Prop
  | bare : e.Carries entries (.list entries)
  | wrapped {fields key} : key ∈ e.keys → List.lookup key fields = some (.list entries) →
      (∀ k ∈ e.keys, k ≠ key → List.lookup k fields = none) → e.Carries entries (.object fields)

/-- A payload is the integer, or its text if this can be read. -/
inductive Payload.Writes (n : Int) : Payload → Prop
  | int : Writes n (.int n)
  | text : Integer.digitCount n.natAbs ≤ Integer.digitLimit → Writes n (.text (Integer.text n))

/-- An entry of the favourites names the product. -/
inductive Favourites.Names (product : Int) : Payload → Prop
  | bare {p} : p.Writes product → Names product p
  | object {fields value} : Payload.Writes product value →
      Fields.HoldsFirst fields (productKeys ++ ["id"]) value → Names product (.object fields)

variable {fields : Fields} {keys : List String} {key : String} {e : Envelope} {p : Payload}
variable {entries : List Payload} {n product : Int}

/-! ## Keys -/

theorem Payload.isNull_eq_false (h : p ≠ .null) : p.isNull = false := by
  cases p with
  | null => exact absurd rfl h
  | bool | int | float | text | list | tuple | object | table => rfl

theorem Fields.HoldsFirst.firstPresent_eq {value : Payload} (h : fields.HoldsFirst keys value) :
    fields.firstPresent keys = value := by
  obtain ⟨before, key, after, rfl, hkey, hvalue, hbefore⟩ := h
  induction before with
  | nil =>
    have hset : (fields.get key).isNull = false := by rw [hkey, Payload.isNull_eq_false hvalue]
    rw [List.nil_append, firstPresent, hset, if_neg Bool.false_ne_true, hkey]
  | cons k before ih =>
    obtain ⟨hk, hbefore⟩ := List.forall_mem_cons.mp hbefore
    have hunset : (fields.get k).isNull = true := by rw [hk]; rfl
    rw [List.cons_append, firstPresent, hunset, if_pos rfl, ih hbefore]

/-- Keys with nothing under them are passed over. -/
theorem Envelope.search_of_only (hkey : key ∈ keys)
    (hlist : List.lookup key fields = some (.list entries))
    (hrest : ∀ k ∈ keys, k ≠ key → List.lookup k fields = none) :
    search fields keys = some entries := by
  induction keys with
  | nil => cases hkey
  | cons k keys ih =>
    obtain ⟨hk, hrest⟩ := List.forall_mem_cons.mp hrest
    by_cases he : k = key
    · rw [search, he, hlist]
    · rw [search, hk he]
      exact ih ((List.mem_cons.mp hkey).resolve_left fun e => he e.symm) hrest

theorem Envelope.Carries.entries_eq (h : e.Carries entries p) : e.entries p = entries := by
  cases h with
  | bare => rfl
  | @wrapped fields key hkey hlist hrest =>
    have hsearch : e.entries? (.object fields) = search fields e.keys := by
      cases fields with
      | nil => cases hlist
      | cons _ _ => rfl
    rw [Envelope.entries, hsearch, search_of_only hkey hlist hrest, Option.getD_some]

/-! ## Ids -/

theorem Payload.Writes.id?_eq (h : p.Writes n) : p.id? = some n := by
  cases h with
  | int => rfl
  | text hdigits => rw [id?, Integer.trim_text, Integer.read?_text, if_pos hdigits]

namespace Favourites

theorem Names.entryId?_eq (h : Names product p) : entryId? p = some product := by
  cases h with
  | bare hp =>
    have hentry : entryId? p = p.id? := by cases hp <;> rfl
    rw [hentry, hp.id?_eq]
  | object hvalue hfirst => rw [entryId?, hfirst.firstPresent_eq, hvalue.id?_eq]

theorem entryIds_of_names {ids : List Int} (h : List.Forall₂ Names ids entries) :
    entries.filterMap entryId? = ids := by
  induction h with
  | nil => rfl
  | cons hentry _ ih => rw [List.filterMap_cons_some hentry.entryId?_eq, ih]

end Favourites

/-- **A listing reads the same in every shape.** Favourites are the ids that the entries name, each at
its first place, whichever way each entry names its id; products and cart lines are those of the bare
listing. So the backend in memory lists the same favourites in all of its shapes. -/
theorem read_in_every_shape :
    (∀ (ids : List Int) (entries : List Payload) (p : Payload),
      List.Forall₂ Favourites.Names ids entries → Envelope.favourites.Carries entries p →
        FirstOccurrences (Favourites.idsOf p) ids) ∧
      (∀ (rows : List Payload) (p : Payload), Envelope.products.Carries rows p →
        Product.listOf p = Product.listOf (.list rows)) ∧
      (∀ (rows : List Payload) (p : Payload), Envelope.cart.Carries rows p →
        Cart.Report.listOf p = Cart.Report.listOf (.list rows)) ∧
      ∀ (m : Memory) (shape : FavouriteShape),
        Favourites.idsOf { m with favouriteShape := shape }.favouritesPayload =
          m.favourites.eraseDups := by
  refine ⟨fun ids entries p hnames hp => ?_, fun rows p hp => ?_, fun rows p hp => ?_,
    fun m shape => Favourites.idsOf_favouritesPayload _⟩
  · rw [Favourites.idsOf, hp.entries_eq, Favourites.entryIds_of_names hnames]
    exact firstOccurrences_eraseDups ids
  · rw [Product.listOf, hp.entries_eq]
    rfl
  · rw [Cart.Report.listOf, hp.entries_eq]
    rfl

/-- Four entries, no two of one kind, under a key that all three listings may use. -/
theorem read_in_every_shape_mixed :
    let entries : List Payload :=
      [.int 7, .object [("id", .int 1), ("sneaker_id", .text "0")], .text "-5",
        .object [("id", .text "7"), ("sneaker_id", .null)]]
    let p : Payload := .object [("count", .int 4), ("items", .list entries)]
    List.Forall₂ Favourites.Names [7, 0, -5, 7] entries ∧
      Envelope.favourites.Carries entries p ∧ Envelope.products.Carries entries p ∧
      Envelope.cart.Carries entries p ∧
      FirstOccurrences (Favourites.idsOf p) [7, 0, -5, 7] ∧
      Product.listOf p = Product.listOf (.list entries) ∧
      Cart.Report.listOf p = Cart.Report.listOf (.list entries) := by
  intro entries p
  have text : ∀ n : Int, Integer.digitCount n.natAbs ≤ Integer.digitLimit →
      (Payload.text (Integer.text n)).Writes n := fun _ => .text
  have hzero : Favourites.Names 0 (.object [("id", .int 1), ("sneaker_id", .text "0")]) :=
    .object (text 0 (by decide)) ⟨[], "sneaker_id", _, rfl, rfl, nofun, nofun⟩
  have hseven : Favourites.Names 7 (.object [("id", .text "7"), ("sneaker_id", .null)]) := by
    refine .object (text 7 (by decide)) ⟨productKeys, "id", [], rfl, rfl, nofun, ?_⟩
    simp only [productKeys, List.forall_mem_cons]
    exact ⟨rfl, rfl, rfl, rfl, nofun⟩
  have hnames : List.Forall₂ Favourites.Names [7, 0, -5, 7] entries :=
    .cons (.bare .int) (.cons hzero (.cons (.bare (text (-5) (by decide))) (.cons hseven .nil)))
  have hcarries : ∀ e : Envelope, "items" ∈ e.keys → "count" ∉ e.keys → e.Carries entries p := by
    intro e hitems hcount
    refine .wrapped hitems rfl fun k hk hne => ?_
    have hother : k ≠ "count" := fun he => hcount (he ▸ hk)
    refine List.lookup_eq_none_iff.mpr ?_
    simp [hother, hne]
  have hfavourites := hcarries .favourites (by decide) (by decide)
  have hproducts := hcarries .products (by decide) (by decide)
  have hcart := hcarries .cart (by decide) (by decide)
  exact ⟨hnames, hfavourites, hproducts, hcart,
    read_in_every_shape.1 _ entries p hnames hfavourites,
    read_in_every_shape.2.1 entries p hproducts,
    read_in_every_shape.2.2.1 entries p hcart⟩

end Shopfront
