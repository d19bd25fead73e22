import Shopfront.Cart.Line
import Shopfront.Favourites.Basic
import Shopfront.Orders.Order

/-! Entries of a payload and what is read from them. An entry that is no good is left out, and what is
read from the others does not depend on it. Orders are the exception: an entry whose items are neither
missing nor a collection stops the reading. Main statement: `readings_apart`. -/

namespace Shopfront

/-- What is read entry by entry is read from each entry alone. -/
theorem filterMap_eq_flatMap_singleton {α β : Type} (f : α → Option β) (xs : List α) :
    xs.filterMap f = xs.flatMap fun x => [x].filterMap f := by
  induction xs with
  | nil => rfl
  | cons x xs ih =>
    rw [List.flatMap_cons, ← ih]
    cases h : f x <;> simp [h]

/-- One entry has at most one id, and so no repetition. -/
theorem Favourites.idsOf_singleton (entry : Payload) :
    idsOf (.list [entry]) = [entry].filterMap entryId? := by
  show ([entry].filterMap entryId?).eraseDups = [entry].filterMap entryId?
  cases h : entryId? entry with
  | none => simp [h]
  | some id => simp [h, List.eraseDups_cons]

namespace OrderItem

/-- Neither nothing nor a collection: the truth value `true` and the numbers other than zero. -/
def Unwalkable : Payload → Prop
  | .bool b => b = true
  | .int n => n ≠ 0
  | .float x => x.isZero = false
  | _ => False

theorem listOf_ok_iff (p : Payload) : (∃ items, listOf p = .ok items) ↔ ¬Unwalkable p := by
  have walked : ∀ {entries}, p.elements? = some entries → ∃ items, listOf p = .ok items := by
    intro entries h
    rw [listOf, h]
    split
    · exact ⟨_, rfl⟩
    · exact ⟨_, rfl⟩
  cases p with
  | null => exact iff_of_true ⟨[], rfl⟩ id
  | bool b => cases b <;> simp [listOf, Unwalkable, Payload.isVacant, Payload.elements?]
  | int n => by_cases h : n = 0 <;> simp [listOf, Unwalkable, Payload.isVacant, Payload.elements?, h]
  | float x =>
    cases h : x.isZero <;> simp [listOf, Unwalkable, Payload.isVacant, Payload.elements?, h]
  | text | list | tuple | object | table => exact iff_of_true (walked rfl) id

end OrderItem

namespace Order

/-- An entry that cannot be passed over, as it has an id, nor be read, as its items cannot be walked. -/
def Blocks (entry : Payload) : Prop :=
  ∃ fields, entry.fields? = some fields ∧ (Fields.get fields "id").isBlank = false ∧
    OrderItem.Unwalkable (Fields.get fields "items")

theorem isBlank_of_ofPayload?_eq_none {p : Payload} (h : Reference.ofPayload? p = none) :
    p.isBlank = true := by
  unfold Reference.ofPayload? at h
  split at h
  · next hblank => exact hblank
  · split at h <;> cases h

theorem isBlank_of_ofPayload?_eq_some {p : Payload} {id : Reference}
    (h : Reference.ofPayload? p = some id) : p.isBlank = false := by
  unfold Reference.ofPayload? at h
  split at h
  · cases h
  · next hsent => exact Bool.eq_false_iff.mpr hsent

theorem ofPayload?_ok_iff (entry : Payload) :
    (∃ order?, ofPayload? entry = .ok order?) ↔ ¬Blocks entry := by
  cases hfields : entry.fields? with
  | none => simp [ofPayload?, Blocks, hfields]
  | some fields =>
    cases hid : Reference.ofPayload? (Fields.get fields "id") with
    | none => simp [ofPayload?, Blocks, hfields, hid, isBlank_of_ofPayload?_eq_none hid]
    | some id =>
      have hblocks : Blocks entry ↔ OrderItem.Unwalkable (Fields.get fields "items") := by
        simp [Blocks, hfields, isBlank_of_ofPayload?_eq_some hid]
      rw [hblocks, ← OrderItem.listOf_ok_iff]
      cases hitems : OrderItem.listOf (Fields.get fields "items") <;>
        simp [ofPayload?, hfields, hid, hitems, bind, Except.bind, pure, Except.pure]

/-- The reading of the entries is the reading of each of them, up to the first that blocks it. -/
theorem readEntries_eq_mapM (entries : List Payload) :
    (readEntries entries).2 =
      (entries.mapM fun entry => listOf (.list [entry])).map List.flatten := by
  induction entries with
  | nil => rfl
  | cons entry entries ih =>
    have hone : listOf (.list [entry]) = (ofPayload? entry).map Option.toList := by
      show (readEntries [entry]).2 = _
      cases h : ofPayload? entry with
      | error fault => simp [readEntries, h, Except.map]
      | ok order? => cases order? <;> simp [readEntries, h, Except.map]
    rw [List.mapM_cons, hone]
    cases h : ofPayload? entry with
    | error fault => simp [readEntries, h, Except.map, bind, Except.bind]
    | ok order? =>
      generalize entries.mapM (fun entry => listOf (.list [entry])) = rest at ih ⊢
      cases order? <;> cases rest <;>
        simp [readEntries, h, ih, Except.map, bind, Except.bind, pure, Except.pure]

theorem readEntries_ok_iff (entries : List Payload) :
    (∃ orders, (readEntries entries).2 = .ok orders) ↔ ∀ entry ∈ entries, ¬Blocks entry := by
  induction entries with
  | nil => exact iff_of_true ⟨[], rfl⟩ fun _ h => nomatch h
  | cons entry entries ih =>
    rw [List.forall_mem_cons, ← ih, ← ofPayload?_ok_iff]
    cases h : ofPayload? entry with
    | error fault => simp [readEntries, h]
    | ok order? =>
      generalize hrest : (readEntries entries).2 = rest
      cases order? <;> cases rest <;> simp [readEntries, h, hrest, Except.map]

end Order

/-- **Entries are read apart from one another.** Whatever a payload is, its favourites are those of
its entries, each read alone, without repetitions; its products and its cart lines are those of its
entries, one after another. So are its orders up to the first entry that stops the reading, and there
is an answer exactly if no entry has an id and items that cannot be walked. -/
theorem readings_apart (p : Payload) :
    Favourites.idsOf p = ((Envelope.favourites.entries p).flatMap fun entry =>
        Favourites.idsOf (.list [entry])).eraseDups ∧
      Product.listOf p = ((Envelope.products.entries p).flatMap fun entry =>
        Product.listOf (.list [entry])) ∧
      Cart.Report.listOf p = ((Envelope.cart.entries p).flatMap fun entry =>
        Cart.Report.listOf (.list [entry])) ∧
      Order.listOf p = ((Envelope.orders.entries p).mapM fun entry =>
        Order.listOf (.list [entry])).map List.flatten ∧
      ((∃ orders, Order.listOf p = .ok orders) ↔
        ∀ entry ∈ Envelope.orders.entries p, ¬Order.Blocks entry) := by
  refine ⟨?_, filterMap_eq_flatMap_singleton .., filterMap_eq_flatMap_singleton ..,
    Order.readEntries_eq_mapM _, Order.readEntries_ok_iff _⟩
  simp only [Favourites.idsOf_singleton]
  rw [← filterMap_eq_flatMap_singleton]
  rfl

/-- One number in the place of items costs a listing all of its orders. -/
theorem Order.listOf_number_for_items :
    let good : Payload := .object [("id", .int 2)]
    let bad : Payload := .object [("id", .int 1), ("items", .int 5)]
    listOf (.list [good]) = .ok [⟨.number 2, "", [], .zero, none, ""⟩] ∧
      listOf (.list [bad, good]) = .error (.notIterable .int) :=
  ⟨rfl, rfl⟩

end Shopfront
