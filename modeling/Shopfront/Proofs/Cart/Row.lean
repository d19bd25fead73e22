import Mathlib.Data.List.Nodup
import Shopfront.Proofs.Cart.Lines

/-! Rows of a cart: what a line says apart from its price. Rows are merged into one a product, with
the first row's id and the total quantity, in the order in which the products appear. Main
statements: the lines of a snapshot are its rows merged (`holds_merge`), and a product's rows may be
replaced before or after merging (`merged_settleBy`). -/

namespace Shopfront.Cart

structure Row where
  id : Option Reference
  product : Int
  quantity : Int
  deriving DecidableEq, Repr

def Line.row (l : Line) : Row := ⟨l.id, l.product, l.quantity⟩
def Report.row (r : Report) : Row := ⟨r.id, r.product, r.quantity⟩

namespace Row

-- Sums begin at the literal zero, whatever is imported beside this module.
attribute [local instance (high)] Zero.ofOfNat0

def ofProduct (product : Int) (rows : List Row) : List Row := rows.filter (·.product == product)

/-- How much of a product there is. -/
def total (product : Int) (rows : List Row) : Int :=
  ((ofProduct product rows).map (·.quantity)).sum

/-- All rows of a product as one. -/
def combined (rows : List Row) (product : Int) : Row :=
  ⟨(ofProduct product rows).head?.bind (·.id), product, total product rows⟩

def merged (rows : List Row) : List Row := (rows.map (·.product)).eraseDups.map (combined rows)

/-- The ids of a product's rows after the first. -/
def furtherIds (product : Int) (rows : List Row) : List Reference :=
  (ofProduct product rows).tail.filterMap (·.id)

variable {product q : Int} {rows : List Row} {r : Row}

theorem length_le_sum {qs : List Int} (h : ∀ q ∈ qs, 1 ≤ q) : (qs.length : Int) ≤ qs.sum := by
  induction qs with
  | nil => exact Int.le_refl 0
  | cons q qs ih =>
    obtain ⟨hq, hqs⟩ := List.forall_mem_cons.mp h
    have hrest := ih hqs
    rw [List.sum_cons, List.length_cons]
    omega

theorem one_le_total (h : ∀ r ∈ rows, 1 ≤ r.quantity) (hne : ofProduct product rows ≠ []) :
    1 ≤ total product rows := by
  have hall : ∀ q ∈ (ofProduct product rows).map (·.quantity), 1 ≤ q := by
    intro q hq
    obtain ⟨r, hr, rfl⟩ := List.mem_map.mp hq
    exact h r (List.mem_filter.mp hr).1
  have hsum := length_le_sum hall
  have hpos := List.length_pos_of_ne_nil hne
  rw [List.length_map] at hsum
  rw [total]
  omega

theorem ofProduct_eq_nil : ofProduct q rows = [] ↔ q ∉ rows.map (·.product) := by
  simp only [ofProduct, List.filter_eq_nil_iff, List.mem_map, beq_iff_eq]
  exact ⟨fun h ⟨x, hx, he⟩ => h x hx he, fun h x hx he => h ⟨x, hx, he⟩⟩

theorem ofProduct_filter_ne (rows : List Row) :
    ofProduct q (rows.filter fun x => x.product != product) =
      if q = product then [] else ofProduct q rows := filter_filter_ne ..

theorem ofProduct_settleBy {item : Option Row} (h : ∀ x ∈ item, x.product = product) :
    ofProduct q (settleBy Row.product product item rows) =
      if q = product then item.toList else ofProduct q rows := filter_eq_settleBy h ..

theorem total_settleBy {item : Option Row} (h : ∀ x ∈ item, x.product = product) :
    total q (settleBy Row.product product item rows) =
      if q = product then (item.map (·.quantity)).getD 0 else total q rows := by
  rw [total, ofProduct_settleBy h]
  split
  · cases item <;> simp
  · rfl

/-! ## Merged rows -/

theorem merged_nil : merged [] = [] := rfl

theorem product_of_mem_merged (h : r ∈ merged rows) : r.product ∈ rows.map (·.product) := by
  obtain ⟨p, hp, rfl⟩ := List.mem_map.mp h
  exact List.mem_eraseDups.mp hp

theorem map_product_merged (rows : List Row) :
    (merged rows).map (·.product) = (rows.map (·.product)).eraseDups := by
  rw [merged, List.map_map]
  exact List.map_id' _

theorem combined_congr {rows rows' : List Row} (h : ofProduct q rows = ofProduct q rows') :
    combined rows q = combined rows' q := by rw [combined, combined, total, total, h]

theorem merged_cons (r : Row) (rows : List Row) :
    merged (r :: rows) = ⟨r.id, r.product, r.quantity + total r.product rows⟩ ::
      merged (rows.filter fun x => x.product != r.product) := by
  have hmap : ((rows.map (·.product)).filter fun p => !p == r.product) =
      (rows.filter fun x => x.product != r.product).map (·.product) := List.filter_map ..
  have hhead : combined (r :: rows) r.product =
      ⟨r.id, r.product, r.quantity + total r.product rows⟩ := by
    simp [combined, total, ofProduct]
  rw [merged, List.map_cons, List.eraseDups_cons, List.map_cons, hmap, hhead, merged]
  refine congrArg _ (List.map_congr_left fun p hp => combined_congr ?_)
  have hne : p ≠ r.product := by
    obtain ⟨x, hx, rfl⟩ := List.mem_map.mp (List.mem_eraseDups.mp hp)
    exact bne_iff_ne.mp (List.mem_filter.mp hx).2
  rw [ofProduct_filter_ne, if_neg hne, ofProduct, List.filter_cons_of_neg (by simpa using hne.symm),
    ofProduct]

theorem merged_eq_nil_iff : merged rows = [] ↔ rows = [] := by
  cases rows with
  | nil => exact iff_of_true merged_nil rfl
  | cons r rows => simp [merged_cons]

theorem merged_cons_of_not_mem (h : r.product ∉ rows.map (·.product)) :
    merged (r :: rows) = r :: merged rows := by
  have hne : ∀ x ∈ rows, x.product ≠ r.product := fun x hx he => h (List.mem_map.mpr ⟨x, hx, he⟩)
  rw [merged_cons, total, ofProduct_eq_nil.mpr h, List.filter_eq_self.mpr (by simpa using hne)]
  simp

theorem nodup_merged (rows : List Row) : ((merged rows).map (·.product)).Nodup := by
  induction rows using key_induction Row.product with
  | nil => exact List.nodup_nil
  | cons r rows ih =>
    rw [merged_cons]
    refine List.nodup_cons.mpr ⟨fun hm => ?_, ih⟩
    obtain ⟨x, hx, he⟩ := List.mem_map.mp hm
    obtain ⟨y, hy, hye⟩ := List.mem_map.mp (product_of_mem_merged hx)
    exact bne_iff_ne.mp (List.mem_filter.mp hy).2 (hye.trans he)

/-- A product's rows may be replaced before or after merging. -/
theorem merged_settleBy {item : Option Row} (h : ∀ x ∈ item, x.product = product)
    (rows : List Row) : merged (settleBy Row.product product item rows) =
      settleBy Row.product product item (merged rows) := by
  have hitem : ∀ rows : List Row, product ∉ rows.map (·.product) →
      merged (item.toList ++ rows) = item.toList ++ merged rows := by
    intro rows hr
    cases item with
    | none => rfl
    | some x => exact merged_cons_of_not_mem ((h x rfl).symm ▸ hr)
  -- by products: merging takes all rows of the first row's product at once
  induction rows using key_induction Row.product with
  | nil => simpa [settleBy, merged_nil] using hitem [] List.not_mem_nil
  | cons r rows ih =>
    by_cases hr : r.product = product
    · have hfree : product ∉ (rows.filter fun x => x.product != product).map (·.product) := by
        rw [← ofProduct_eq_nil, ofProduct_filter_ne, if_pos rfl]
      have hkeep : (merged (rows.filter fun x => x.product != product)).filter
          (fun x => x.product != product) = merged (rows.filter fun x => x.product != product) := by
        refine filter_ne_eq_self fun x hx he => ?_
        have hm := product_of_mem_merged hx
        rw [he] at hm
        exact hfree hm
      rw [settleBy, if_pos hr, hitem _ hfree, merged_cons, settleBy, if_pos hr, hr, hkeep]
    · have hother : ∀ x : Row, x.product = product → (x.product != r.product) = true :=
        fun x hx => bne_iff_ne.mpr fun e => hr (e.symm.trans hx)
      rw [settleBy, if_neg hr, merged_cons, merged_cons, settleBy, if_neg hr, total_settleBy h,
        if_neg hr, filter_settleBy (fun x hx => hother x (h x hx)) (fun x _ => hother x), ih]

theorem merged_concat_of_not_mem (h : r.product ∉ rows.map (·.product)) :
    merged (rows ++ [r]) = merged rows ++ [r] := by
  have hitem : ∀ x ∈ some r, x.product = r.product := fun _ hx => Option.some.inj hx ▸ rfl
  have hset := merged_settleBy hitem rows
  have hne : ∀ x ∈ rows, x.product ≠ r.product := fun x hx he => h (List.mem_map.mpr ⟨x, hx, he⟩)
  have hne' : ∀ x ∈ merged rows, x.product ≠ r.product := by
    intro x hx he
    have hm := product_of_mem_merged hx
    rw [he] at hm
    exact h hm
  rwa [settleBy_of_not_mem hne, settleBy_of_not_mem hne'] at hset

/-- A further row of a product adds to its one merged row. -/
theorem merged_concat_of_mem (h : r.product ∈ rows.map (·.product)) :
    merged (rows ++ [r]) = (merged rows).map fun x =>
      if x.product = r.product then { x with quantity := x.quantity + r.quantity } else x := by
  have hone : [r.product].removeAll (rows.map (·.product)) = [] := by
    rw [List.removeAll, List.filter_eq_nil_iff]
    intro p hp
    cases List.mem_singleton.mp hp
    simpa using List.mem_map.mp h
  have hlist : ((rows ++ [r]).map (·.product)).eraseDups = (rows.map (·.product)).eraseDups := by
    rw [List.map_append, List.map_singleton, List.eraseDups_append, hone, List.eraseDups_nil,
      List.append_nil]
  rw [merged, hlist, merged, List.map_map]
  refine List.map_congr_left fun p hp => ?_
  simp only [Function.comp_apply]
  by_cases hp' : p = r.product
  · obtain ⟨x, xs, hx⟩ := List.exists_cons_of_ne_nil fun e => ofProduct_eq_nil.mp e h
    rw [ofProduct] at hx
    simp [combined, total, ofProduct, List.filter_append, hp', hx, Int.add_assoc]
  · have hp'' : ¬r.product = p := fun e => hp' e.symm
    simp [combined, total, ofProduct, List.filter_append, hp', hp'']

theorem furtherIds_concat :
    furtherIds product (rows ++ [r]) = furtherIds product rows ++
      if r.product = product ∧ product ∈ rows.map (·.product) then r.id.toList else [] := by
  have hsplit : ofProduct product (rows ++ [r]) =
      ofProduct product rows ++ if r.product = product then [r] else [] := by
    by_cases hr : r.product = product <;> simp [ofProduct, List.filter_append, hr]
  rw [furtherIds, hsplit, furtherIds]
  cases hp : ofProduct product rows with
  | nil =>
    have hnot : ¬(r.product = product ∧ product ∈ rows.map (·.product)) :=
      fun h => ofProduct_eq_nil.mp hp h.2
    rw [if_neg hnot]
    split <;> rfl
  | cons x xs =>
    have hmem : product ∈ rows.map (·.product) := by
      refine Decidable.by_contra fun h => ?_
      rw [ofProduct_eq_nil.mpr h] at hp
      cases hp
    by_cases hr : r.product = product
    · cases hid : r.id <;> simp [hr, hmem, hid]
    · simp [hr]

/-! ## Rows of distinct products -/

theorem merged_of_nodup (h : (rows.map (·.product)).Nodup) : merged rows = rows := by
  induction rows with
  | nil => rfl
  | cons r rows ih =>
    obtain ⟨hr, hrows⟩ := List.nodup_cons.mp h
    rw [merged_cons_of_not_mem hr, ih hrows]

theorem tail_ofProduct_of_nodup (h : (rows.map (·.product)).Nodup) :
    (ofProduct product rows).tail = [] := by
  induction rows with
  | nil => rfl
  | cons r rows ih =>
    obtain ⟨hr, hrows⟩ := List.nodup_cons.mp h
    by_cases hp : r.product = product
    · rw [ofProduct, List.filter_cons_of_pos (by simpa using hp), List.tail_cons]
      exact ofProduct_eq_nil.mpr (hp ▸ hr)
    · rw [ofProduct, List.filter_cons_of_neg (by simpa using hp)]
      exact ih hrows

theorem furtherIds_of_nodup (h : (rows.map (·.product)).Nodup) : furtherIds product rows = [] := by
  rw [furtherIds, tail_ofProduct_of_nodup h, List.filterMap_nil]

def first? (product : Int) (rows : List Row) : Option Row := rows.find? (·.product == product)

theorem total_of_nodup (h : (rows.map (·.product)).Nodup) (product : Int) :
    total product rows = ((first? product rows).map (·.quantity)).getD 0 := by
  have hhead : (ofProduct product rows).head? = first? product rows := List.head?_filter ..
  have htail : (ofProduct product rows).tail = [] := tail_ofProduct_of_nodup h
  rw [total, ← hhead]
  cases hrows : ofProduct product rows with
  | nil => rfl
  | cons r rs =>
    rw [hrows, List.tail_cons] at htail
    rw [htail, List.map_singleton, List.sum_singleton]
    rfl

theorem first?_settleBy {item : Option Row} (h : ∀ x ∈ item, x.product = product) :
    first? q (settleBy Row.product product item rows) =
      if q = product then item else first? q rows := find?_settleBy h ..

theorem mem_iff_first? (h : (rows.map (·.product)).Nodup) :
    r ∈ rows ↔ first? r.product rows = some r :=
  ⟨fun hr => find?_of_nodup h hr, fun hf => List.mem_of_find?_eq_some hf⟩

theorem first?_merged (product : Int) (rows : List Row) :
    first? product (merged rows) =
      (rows.find? (·.product == product)).map fun _ => combined rows product := by
  cases hf : rows.find? (·.product == product) with
  | none =>
    refine List.find?_eq_none.mpr fun x hx he => ?_
    obtain ⟨y, hy, hye⟩ := List.mem_map.mp (product_of_mem_merged hx)
    refine List.find?_eq_none.mp hf y hy ?_
    rw [hye]
    exact he
  | some x =>
    have hx : x.product = product := by simpa using List.find?_some hf
    have hproduct : product ∈ rows.map (·.product) := by
      rw [← hx]
      exact List.mem_map_of_mem (List.mem_of_find?_eq_some hf)
    have hmem : combined rows product ∈ merged rows :=
      List.mem_map_of_mem (List.mem_eraseDups.mpr hproduct)
    exact (mem_iff_first? (nodup_merged rows)).mp hmem

theorem furtherIds_settleBy {item : Option Row} (h : ∀ x ∈ item, x.product = product) :
    furtherIds q (settleBy Row.product product item rows) =
      if q = product then [] else furtherIds q rows := by
  rw [furtherIds, ofProduct_settleBy h]
  split
  · cases item <;> rfl
  · rfl

/-- Rows of distinct products are the same, but for their order, if they are the same for each
product. -/
theorem perm_of_first?_eq {rows' : List Row} (h : (rows.map (·.product)).Nodup)
    (h' : (rows'.map (·.product)).Nodup) (he : ∀ p, first? p rows = first? p rows') :
    rows.Perm rows' := by
  refine (List.perm_ext_iff_of_nodup (.of_map _ h) (.of_map _ h')).mpr fun r => ?_
  rw [mem_iff_first? h, mem_iff_first? h', he]

end Row

/-! ## Snapshots -/

/-- What a snapshot says to be in the cart. -/
def reportedRows (reports : List Report) : List Row :=
  (reports.filter fun r => 1 ≤ r.quantity).map Report.row

/-- The lines collected so far are the rows, merged. -/
structure Merge.Holds (m : Merge) (rows : List Row) : Prop where
  lines : m.lines.map Line.row = Row.merged rows
  folded : ∀ product, foldedIds product m.folded = Row.furtherIds product rows

variable (catalog : Catalog) (visible : List Line)

theorem Merge.Holds.add {m : Merge} {rows : List Row} (h : m.Holds rows) {r : Report}
    (hq : 1 ≤ r.quantity) : (m.add catalog visible r).Holds (rows ++ [r.row]) := by
  have hproducts : ∀ product,
      (m.lines.any (·.product == product)) = true ↔ product ∈ rows.map (·.product) := by
    intro product
    rw [← List.mem_eraseDups, ← Row.map_product_merged, ← h.lines, List.any_eq_true]
    simp [Line.row]
  rw [Merge.add, if_neg (Int.not_lt.mpr hq)]
  split
  · next hmem =>
    have hmem := (hproducts _).mp hmem
    refine ⟨?_, fun product => ?_⟩
    · rw [Row.merged_concat_of_mem hmem, ← h.lines, Merge.fold, List.map_map, List.map_map]
      refine List.map_congr_left fun l _ => ?_
      by_cases hl : l.product = r.product <;> simp [Line.row, Report.row, hl]
    · rw [Row.furtherIds_concat, ← h.folded, Merge.fold]
      by_cases hp : r.product = product
      · subst hp
        rw [if_pos ⟨rfl, hmem⟩, Report.row]
        cases r.id <;> simp [foldedIds]
      · rw [if_neg fun h => hp h.1, List.append_nil]
        cases r.id <;> simp [foldedIds, hp]
  · next hnew =>
    have hnew : r.product ∉ rows.map (·.product) := fun hm => hnew ((hproducts _).mpr hm)
    refine ⟨?_, fun product => ?_⟩
    · rw [Row.merged_concat_of_not_mem hnew, ← h.lines, Merge.append, List.map_append]
      rfl
    · rw [Row.furtherIds_concat, if_neg, List.append_nil]
      · exact h.folded product
      · rintro ⟨rfl, hm⟩
        exact hnew hm

theorem holds_merge (reports : List Report) :
    (merge catalog visible reports).Holds (reportedRows reports) := by
  suffices h : ∀ (m : Merge) (rows : List Row), m.Holds rows →
      (reports.foldl (Merge.add catalog visible) m).Holds (rows ++ reportedRows reports) from
    h _ [] ⟨rfl, fun _ => rfl⟩
  induction reports with
  | nil => intro m rows h; rwa [reportedRows, List.filter_nil, List.map_nil, List.append_nil]
  | cons r rs ih =>
    intro m rows h
    by_cases hq : 1 ≤ r.quantity
    · have hr := ih _ _ (h.add catalog visible hq)
      rw [List.append_assoc] at hr
      rwa [reportedRows, List.filter_cons_of_pos (by simpa using hq), List.map_cons]
    · have hskip : m.add catalog visible r = m := if_pos (Int.not_le.mp hq)
      have hr := ih m rows h
      rwa [List.foldl_cons, hskip, reportedRows, List.filter_cons_of_neg (by simpa using hq)]

theorem nodup_merge (reports : List Report) :
    ((merge catalog visible reports).lines.map (·.product)).Nodup := by
  have h := Row.nodup_merged (reportedRows reports)
  rwa [← (holds_merge catalog visible reports).lines, List.map_map] at h

theorem merge_eq_nil_iff {reports : List Report} :
    (merge catalog visible reports).lines = [] ↔ ∀ r ∈ reports, r.quantity < 1 := by
  rw [← List.map_eq_nil_iff, (holds_merge catalog visible reports).lines, Row.merged_eq_nil_iff,
    reportedRows, List.map_eq_nil_iff, List.filter_eq_nil_iff]
  simp

theorem row_withLine {product : Int} (line : Option Line) (lines : List Line) :
    (withLine product line lines).map Line.row =
      settleBy Row.product product (line.map Line.row) (lines.map Line.row) := by
  have hkey : ∀ l : Line, l.row.product = l.product := fun _ => rfl
  rw [withLine_eq_settleBy]
  exact map_settleBy hkey lines

theorem first?_map_row (product : Int) (lines : List Line) :
    Row.first? product (lines.map Line.row) = (lineOf? product lines).map Line.row :=
  List.find?_map ..

end Shopfront.Cart
