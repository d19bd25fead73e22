import Shopfront.Cart.Basic
import Shopfront.Proofs.Keyed

/-! Lines of a cart by product. Main statements: a line put for a product is the one found for it
and leaves all others (`lineOf?_withLine`), and well-formed lines stay so under every change of a
line and under every snapshot (`WellFormed.withLine`, `wellFormed_merge`). -/

namespace Shopfront.Cart

theorem mem_of_lineOf? {product : Int} {lines : List Line} {line : Line}
    (h : lineOf? product lines = some line) : line ∈ lines := List.mem_of_find?_eq_some h

theorem product_of_lineOf? {product : Int} {lines : List Line} {line : Line}
    (h : lineOf? product lines = some line) : line.product = product := by
  simpa using List.find?_some h

theorem lineOf?_of_mem {lines : List Line} {line : Line} (hd : (lines.map (·.product)).Nodup)
    (h : line ∈ lines) : lineOf? line.product lines = some line := find?_of_nodup hd h

theorem withLine_eq_settleBy (product : Int) (shown : Option Line) (lines : List Line) :
    withLine product shown lines = settleBy Line.product product shown lines := by
  cases shown with
  | none => exact (settleBy_none lines).symm
  | some line =>
    induction lines with
    | nil => rfl
    | cons l ls ih =>
      have ih : putLine product line ls = settleBy Line.product product (some line) ls := ih
      simp [withLine, putLine, settleBy, ih]

theorem withLine_some_ne_nil (product : Int) (line : Line) (lines : List Line) :
    withLine product (some line) lines ≠ [] := by
  rw [withLine_eq_settleBy]
  exact List.ne_nil_of_mem (mem_settleBy_self line lines)

/-- A change of a product's line is all that is seen of it, and nothing else is seen to change. -/
theorem lineOf?_withLine {product : Int} {shown : Option Line}
    (h : ∀ l ∈ shown, l.product = product) (q : Int) (lines : List Line) :
    lineOf? q (withLine product shown lines) =
      if q = product then shown else lineOf? q lines := by
  rw [withLine_eq_settleBy]
  exact find?_settleBy h q lines

/-! ## Well-formed lines -/

/-- A line with a quantity to sell at a price. -/
structure Line.WellFormed (l : Line) : Prop where
  positive : 1 ≤ l.quantity
  priced : l.price.isPrice = true

/-- Well-formed lines, at most one a product. -/
structure WellFormed (lines : List Line) : Prop where
  distinct : (lines.map (·.product)).Nodup
  each : ∀ l ∈ lines, l.WellFormed

theorem wellFormed_nil : WellFormed [] := ⟨List.nodup_nil, fun _ h => nomatch h⟩

theorem WellFormed.withLine {product : Int} {shown : Option Line} {lines : List Line}
    (h : WellFormed lines) (hp : ∀ l ∈ shown, l.product = product)
    (hs : ∀ l ∈ shown, l.WellFormed) : WellFormed (withLine product shown lines) := by
  rw [withLine_eq_settleBy]
  refine ⟨nodup_settleBy hp h.distinct, fun l hl => ?_⟩
  rcases mem_settleBy hl with hl | hl
  · exact hs l hl
  · exact h.each l hl

/-! ## Prices -/

theorem isPrice_getD_zero {d : Option Decimal} (h : ∀ x ∈ d, x.isPrice = true) :
    (d.getD .zero).isPrice = true := by
  cases d with
  | none => exact Decimal.isPrice_zero
  | some x => exact h x rfl

/-- A catalog whose products all have a price. -/
def Priced (catalog : Catalog) : Prop := ∀ p ∈ catalog.products, p.price.isPrice = true

theorem isPrice_of_mem_listOf {listing : Payload} {p : Product} (h : p ∈ Product.listOf listing) :
    p.price.isPrice = true := by
  obtain ⟨entry, _, he⟩ := List.mem_filterMap.mp h
  obtain ⟨fields, _, hf⟩ := Option.bind_eq_some_iff.mp he
  obtain ⟨id, _, rfl⟩ := Option.map_eq_some_iff.mp hf
  exact isPrice_getD_zero fun x hx => isPrice_of_price? hx

theorem priced_ofPayload (listing : Payload) : Priced (Catalog.ofPayload listing) := by
  suffices h : ∀ (products : List Product) (c : Catalog), Priced c →
      (∀ p ∈ products, p.price.isPrice = true) → Priced (products.foldl Catalog.insert c) from
    h _ _ (fun _ hp => nomatch hp) fun _ => isPrice_of_mem_listOf
  intro products
  induction products with
  | nil => intro c hc _; exact hc
  | cons p ps ih =>
    intro c hc hps
    refine ih _ (fun x hx => ?_) fun x hx => hps x (List.mem_cons_of_mem _ hx)
    rcases mem_putBy hx with rfl | hx
    · exact hps _ List.mem_cons_self
    · exact hc x hx

theorem isPrice_priceFor {catalog : Catalog} (hc : Priced catalog) {visible : List Line}
    (hv : ∀ l ∈ visible, l.WellFormed) (product : Int) {reported : Option Decimal}
    (hr : ∀ d ∈ reported, d.isPrice = true) :
    (priceFor catalog visible product reported).isPrice = true := by
  refine isPrice_getD_zero fun d hd => ?_
  rcases Option.or_eq_some_iff.mp hd with hd | ⟨_, hd⟩
  · exact hr d hd
  rcases Option.or_eq_some_iff.mp hd with hd | ⟨_, hd⟩
  · obtain ⟨l, hl, rfl⟩ := Option.map_eq_some_iff.mp hd
    exact (hv l (mem_of_lineOf? hl)).priced
  · obtain ⟨p, hp, rfl⟩ := Option.map_eq_some_iff.mp hd
    exact hc p (List.mem_of_find?_eq_some hp)

theorem isPrice_of_mem_report {entry : Payload} {r : Report} (h : Report.ofPayload? entry = some r) :
    ∀ d ∈ r.price, d.isPrice = true := by
  obtain ⟨fields, _, hf⟩ := Option.bind_eq_some_iff.mp h
  obtain ⟨product, _, rfl⟩ := Option.map_eq_some_iff.mp hf
  exact fun d hd => isPrice_of_price? hd

/-! ## Snapshots -/

variable {catalog : Catalog} {visible : List Line}

theorem map_product_fold (m : Merge) (r : Report) :
    (m.fold r).lines.map (·.product) = m.lines.map (·.product) := by
  rw [Merge.fold, List.map_map]
  refine List.map_congr_left fun l _ => ?_
  simp only [Function.comp_apply]
  split <;> rfl

theorem wellFormed_add (hc : Priced catalog) (hv : ∀ l ∈ visible, l.WellFormed) {m : Merge}
    (hm : WellFormed m.lines) {r : Report} (hr : ∀ d ∈ r.price, d.isPrice = true) :
    WellFormed (m.add catalog visible r).lines := by
  unfold Merge.add
  split
  · exact hm
  next hq =>
  have hq : 1 ≤ r.quantity := Int.not_lt.mp hq
  split
  · constructor
    · rw [map_product_fold]
      exact hm.distinct
    · intro l hl
      obtain ⟨l', hl', rfl⟩ := List.mem_map.mp hl
      obtain ⟨hpos, hprice⟩ := hm.each l' hl'
      split
      · exact ⟨by show 1 ≤ l'.quantity + r.quantity; omega, hprice⟩
      · exact ⟨hpos, hprice⟩
  · next hnew =>
    constructor
    · rw [Merge.append, List.map_append]
      refine List.nodup_append.mpr ⟨hm.distinct, by simp, fun a ha b hb => ?_⟩
      rintro rfl
      obtain ⟨l, hl, he⟩ := List.mem_map.mp ha
      refine hnew (List.any_eq_true.mpr ⟨l, hl, ?_⟩)
      simpa [he] using hb
    · intro l hl
      rcases List.mem_append.mp hl with hl | hl
      · exact hm.each l hl
      · cases List.mem_singleton.mp hl
        exact ⟨hq, isPrice_priceFor hc hv r.product hr⟩

theorem wellFormed_merge (hc : Priced catalog) (hv : ∀ l ∈ visible, l.WellFormed)
    {reports : List Report} (hr : ∀ r ∈ reports, ∀ d ∈ r.price, d.isPrice = true) :
    WellFormed (merge catalog visible reports).lines := by
  suffices h : ∀ m : Merge, WellFormed m.lines →
      WellFormed (reports.foldl (Merge.add catalog visible) m).lines from
    h _ wellFormed_nil
  induction reports with
  | nil => exact fun _ hm => hm
  | cons r rs ih =>
    intro m hm
    exact ih (fun x hx => hr x (List.mem_cons_of_mem _ hx)) _
      (wellFormed_add hc hv hm (hr r List.mem_cons_self))

end Shopfront.Cart
