import Shopfront.Proofs.Cart.Row

/-! What a payload of the cart makes of its reports. The reports of a product are merged into one
line, which is priced by the first of them, and the ids of the others are kept to be folded. Main
statement: the lines, their ids, quantities and prices, and the ids to be folded, said by the reports
alone but for prices that were known before; the same payload again changes nothing
(`snapshot_merged`). -/

namespace Shopfront.Cart

variable {product : Int} {catalog : Catalog} {visible : List Line}

/-! ## Prices -/

def linePrice? (product : Int) (lines : List Line) : Option Decimal :=
  (lineOf? product lines).map (·.price)

theorem linePrice?_append (lines : List Line) (line : Line) :
    linePrice? product (lines ++ [line]) =
      (linePrice? product lines).or (if line.product = product then some line.price else none) := by
  rw [linePrice?, lineOf?, List.find?_append, Option.map_or, linePrice?, lineOf?,
    List.find?_singleton]
  by_cases h : line.product = product <;> simp [h]

/-- A further report adds to a quantity and leaves the price. -/
theorem linePrice?_fold (m : Merge) (r : Report) :
    linePrice? product (m.fold r).lines = linePrice? product m.lines := by
  let raise : Line → Line := fun l =>
    if l.product = r.product then { l with quantity := l.quantity + r.quantity } else l
  have hproduct : ((·.product == product) ∘ raise) = (·.product == product) := by
    funext l
    simp only [Function.comp_apply, raise]
    split <;> rfl
  have hprice : Line.price ∘ raise = Line.price := by
    funext l
    simp only [Function.comp_apply, raise]
    split <;> rfl
  show ((m.lines.map raise).find? (·.product == product)).map Line.price = _
  rw [List.find?_map, Option.map_map, hproduct, hprice]
  rfl

theorem linePrice?_add (m : Merge) (r : Report) :
    linePrice? product (m.add catalog visible r).lines =
      (linePrice? product m.lines).or
        (if 1 ≤ r.quantity ∧ r.product = product then some (priceFor catalog visible product r.price)
          else none) := by
  unfold Merge.add
  by_cases hq : r.quantity < 1
  · have hnot : ¬(1 ≤ r.quantity ∧ r.product = product) := fun h => absurd h.1 (Int.not_le.mpr hq)
    rw [if_pos hq, if_neg hnot, Option.or_none]
  rw [if_neg hq]
  have hq : 1 ≤ r.quantity := Int.not_lt.mp hq
  by_cases hold : m.lines.any (·.product == r.product) = true
  · rw [if_pos hold, linePrice?_fold]
    split
    · next h =>
      rw [h.2] at hold
      obtain ⟨line, hline⟩ :=
        Option.isSome_iff_exists.mp (List.find?_isSome.mpr (List.any_eq_true.mp hold))
      have hline : linePrice? product m.lines = some line.price :=
        congrArg (Option.map Line.price) hline
      rw [hline, Option.some_or]
    · rw [Option.or_none]
  · rw [if_neg hold, Merge.append, linePrice?_append]
    by_cases hp : r.product = product
    · rw [if_pos hp, if_pos ⟨hq, hp⟩, hp]
    · rw [if_neg hp, if_neg fun h => hp h.2]

/-- A line that is loaded is priced by the first report of its product. -/
theorem linePrice?_merge (reports : List Report) :
    linePrice? product (merge catalog visible reports).lines =
      (reports.find? fun r => 1 ≤ r.quantity ∧ r.product = product).map fun r =>
        priceFor catalog visible product r.price := by
  suffices h : ∀ m : Merge, linePrice? product
      (reports.foldl (Merge.add catalog visible) m).lines =
        (linePrice? product m.lines).or
          ((reports.find? fun r => 1 ≤ r.quantity ∧ r.product = product).map fun r =>
            priceFor catalog visible product r.price) from
    (h ⟨[], [], []⟩).trans (Option.none_or ..)
  induction reports with
  | nil => exact fun m => (Option.or_none ..).symm
  | cons r rs ih =>
    intro m
    rw [List.foldl_cons, ih, linePrice?_add, Option.or_assoc, List.find?_cons]
    by_cases hlists : 1 ≤ r.quantity ∧ r.product = product <;> simp [hlists]

/-! ## Lines -/

/-- Whether a payload of the cart has a line of the product. -/
def listsLine (product : Int) (p : Payload) : Bool :=
  (Report.listOf p).any fun r => 1 ≤ r.quantity ∧ r.product = product

theorem map_product_merge (catalog : Catalog) (visible : List Line) (reports : List Report) :
    (merge catalog visible reports).lines.map (·.product) =
      ((reports.filter (1 ≤ ·.quantity)).map (·.product)).eraseDups := by
  have h := congrArg (List.map Row.product) (holds_merge catalog visible reports).lines
  rw [Row.map_product_merged, reportedRows, List.map_map, List.map_map] at h
  exact h

theorem mem_products_applySnapshot {p : Payload} {c : Cart} :
    product ∈ (applySnapshot catalog p c).lines.map (·.product) ↔ listsLine product p = true := by
  show product ∈ (merge catalog c.lines (Report.listOf p)).lines.map (·.product) ↔ _
  rw [map_product_merge, List.mem_eraseDups, listsLine, List.any_eq_true]
  simp [and_assoc]

section Combined

-- Sums begin at the literal zero, whatever is imported beside this module.
attribute [local instance (high)] Zero.ofOfNat0

/-- All reports of a product as one line: the id of the first, all that there is of the product, and
the first's price, or else that of the line shown before, or else that of the catalog, or else
zero. -/
def combinedLine (catalog : Catalog) (visible : List Line) (reports : List Report)
    (product : Int) : Line :=
  let own := reports.filter (·.product == product)
  { id := own.head?.bind (·.id)
    product
    quantity := (own.map (·.quantity)).sum
    price := (((own.head?.bind (·.price)).or (linePrice? product visible)).or
      ((catalog.get? product).map (·.price))).getD .zero }

theorem ofProduct_map_report (reports : List Report) :
    Row.ofProduct product (reports.map Report.row) =
      (reports.filter (·.product == product)).map Report.row := List.filter_map ..

theorem row_combinedLine (reports : List Report) :
    (combinedLine catalog visible reports product).row =
      Row.combined (reports.map Report.row) product := by
  have hid : ((reports.filter (·.product == product)).map Report.row).head?.bind (·.id) =
      (reports.filter (·.product == product)).head?.bind (·.id) := by
    rw [List.head?_map, Option.bind_map]
    rfl
  rw [Row.combined, Row.total, ofProduct_map_report, hid, List.map_map]
  rfl

end Combined

theorem priceFor_eq (reported : Option Decimal) :
    priceFor catalog visible product reported =
      ((reported.or (linePrice? product visible)).or
        ((catalog.get? product).map (·.price))).getD .zero := by
  rw [Option.or_assoc]
  rfl

theorem eq_of_row_of_price {l l' : Line} (hrow : l.row = l'.row) (hprice : l.price = l'.price) :
    l = l' := by
  obtain ⟨id, product, quantity, price⟩ := l
  obtain ⟨id', product', quantity', price'⟩ := l'
  cases hrow
  cases hprice
  rfl

theorem eq_combinedLine_of_mem_merge {reports : List Report} {line : Line}
    (h : line ∈ (merge catalog visible reports).lines) :
    line = combinedLine catalog visible (reports.filter (1 ≤ ·.quantity)) line.product := by
  set kept := reports.filter (1 ≤ ·.quantity) with hkept
  have hrows : (merge catalog visible reports).lines.map Line.row =
      Row.merged (kept.map Report.row) := (holds_merge catalog visible reports).lines
  have hmem : line.row ∈ Row.merged (kept.map Report.row) := hrows ▸ List.mem_map_of_mem h
  obtain ⟨product, _, hrow⟩ := List.mem_map.mp hmem
  obtain rfl : product = line.product := congrArg Row.product hrow
  refine eq_of_row_of_price (hrow.symm.trans (row_combinedLine kept).symm) ?_
  -- the line is the one found for its product, so it has the price of the first report
  have hshown : linePrice? line.product (merge catalog visible reports).lines = some line.price :=
    congrArg (Option.map Line.price) (lineOf?_of_mem (nodup_merge catalog visible reports) h)
  rw [linePrice?_merge] at hshown
  obtain ⟨r, hr, hprice⟩ := Option.map_eq_some_iff.mp hshown
  have hfirst : (kept.filter (·.product == line.product)).head? = some r := by
    rw [List.head?_filter, hkept, List.find?_filter, ← hr]
    simp
  rw [← hprice, priceFor_eq, combinedLine, hfirst]
  rfl

/-- The lines are the products in the order in which they first appear, each with its reports
combined. -/
theorem lines_merge (reports : List Report) :
    (merge catalog visible reports).lines =
      ((reports.filter (1 ≤ ·.quantity)).map (·.product)).eraseDups.map
        (combinedLine catalog visible (reports.filter (1 ≤ ·.quantity))) := by
  rw [← map_product_merge catalog visible, List.map_map]
  exact (List.map_id _).symm.trans (List.map_congr_left fun _ => eq_combinedLine_of_mem_merge)

theorem linePrice?_map_combinedLine {reports : List Report} {products : List Int}
    (h : product ∈ products) :
    linePrice? product (products.map (combinedLine catalog visible reports)) =
      some (combinedLine catalog visible reports product).price := by
  obtain ⟨found, hfound⟩ := Option.isSome_iff_exists.mp (List.find?_isSome (p := (· == product))
    |>.mpr ⟨product, h, beq_self_eq_true product⟩)
  obtain rfl : found = product := by simpa using List.find?_some hfound
  rw [linePrice?, lineOf?, List.find?_map]
  show ((products.find? (· == found)).map _).map _ = _
  rw [hfound]
  rfl

/-- With the lines that are shown already, the reports come to the same. -/
theorem combinedLine_again {reports : List Report} {lines : List Line}
    (h : linePrice? product lines = some (combinedLine catalog visible reports product).price) :
    combinedLine catalog lines reports product = combinedLine catalog visible reports product := by
  refine eq_of_row_of_price ((row_combinedLine reports).trans (row_combinedLine reports).symm) ?_
  have hagain : ∀ reported shown known : Option Decimal,
      ((reported.or (some (((reported.or shown).or known).getD .zero))).or known).getD .zero =
        ((reported.or shown).or known).getD .zero := by
    intro reported shown known
    cases reported <;> rfl
  show ((Option.or _ (linePrice? product lines)).or _).getD _ = _
  rw [h]
  exact hagain ..

/-! ## Further ids -/

/-- Merging looks at what is shown for prices only. -/
theorem add_alike {visible' : List Line} {m m' : Merge}
    (hproducts : m.lines.map (·.product) = m'.lines.map (·.product))
    (hfolded : m.folded = m'.folded) (r : Report) :
    (m.add catalog visible r).lines.map (·.product) =
        (m'.add catalog visible' r).lines.map (·.product) ∧
      (m.add catalog visible r).folded = (m'.add catalog visible' r).folded := by
  have hany : m.lines.any (·.product == r.product) = m'.lines.any (·.product == r.product) := by
    have h := congrArg (List.any · (· == r.product)) hproducts
    rwa [List.any_map, List.any_map] at h
  unfold Merge.add
  rw [hany]
  split
  · exact ⟨hproducts, hfolded⟩
  split
  · rw [map_product_fold, map_product_fold, Merge.fold, Merge.fold, hfolded]
    exact ⟨hproducts, rfl⟩
  · rw [Merge.append, Merge.append, List.map_append, List.map_append, hproducts]
    exact ⟨rfl, hfolded⟩

theorem folded_merge (catalog : Catalog) (visible visible' : List Line) (reports : List Report) :
    (merge catalog visible reports).folded = (merge catalog visible' reports).folded := by
  suffices h : ∀ m m' : Merge, m.lines.map (·.product) = m'.lines.map (·.product) →
      m.folded = m'.folded → (reports.foldl (Merge.add catalog visible) m).folded =
        (reports.foldl (Merge.add catalog visible') m').folded from h _ _ rfl rfl
  induction reports with
  | nil => exact fun _ _ _ hfolded => hfolded
  | cons r rs ih =>
    intro m m' hproducts hfolded
    obtain ⟨hproducts, hfolded⟩ := add_alike hproducts hfolded r
    exact ih _ _ hproducts hfolded

theorem foldedIds_merge (reports : List Report) :
    foldedIds product (merge catalog visible reports).folded =
      (((reports.filter (1 ≤ ·.quantity)).filter (·.product == product)).tail).filterMap (·.id) := by
  rw [(holds_merge catalog visible reports).folded, Row.furtherIds, reportedRows,
    ofProduct_map_report, ← List.map_tail, List.filterMap_map]
  rfl

/-- **What a payload of the cart comes to.** Let the reports be those of at least one piece. The
lines and the confirmed lines become one line for each product, in the order of the products' first
reports: with the first report's id, all the pieces, and the price of the first report, or else of
the line shown before, or else of the catalog, or else zero. To be folded are the ids of a product's
further reports in their order. Nothing else of the cart changes, and the same payload again changes
nothing at all. -/
theorem snapshot_merged (catalog : Catalog) (p : Payload) (c : Cart) :
    let reports := (Report.listOf p).filter (1 ≤ ·.quantity)
    let lines := (reports.map (·.product)).eraseDups.map (combinedLine catalog c.lines reports)
    let after := applySnapshot catalog p c
    after.lines = lines ∧ after.confirmed = lines ∧
      (∀ product, foldedIds product after.folded =
        (reports.filter (·.product == product)).tail.filterMap (·.id)) ∧
      after.pending = c.pending ∧ after.error = c.error ∧
      applySnapshot catalog p after = after := by
  intro reports lines after
  have hlines : after.lines = lines := lines_merge (Report.listOf p)
  have hagain : (merge catalog after.lines (Report.listOf p)).lines = after.lines := by
    rw [lines_merge, hlines]
    refine List.map_congr_left fun product hproduct => ?_
    exact combinedLine_again (linePrice?_map_combinedLine hproduct)
  refine ⟨hlines, hlines, fun product => foldedIds_merge _, rfl, rfl, ?_⟩
  show { after with lines := _, confirmed := _, folded := _ } = after
  rw [hagain, folded_merge catalog after.lines c.lines]
  rfl

end Shopfront.Cart
