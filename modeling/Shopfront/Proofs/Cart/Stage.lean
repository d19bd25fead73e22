import Shopfront.Proofs.Cart.Exchange
import Shopfront.Proofs.Cart.Transition

/-! One operation at a time on a cart whose backend may keep several lines a product. The lines after
the first are folded into it: a change is sent for the first line, and then the others are deleted.
Main statements: an operation begins at a stage (`begin_stage`), and an answer takes it from stage to
stage (`Stage.answered`) until it has done what was asked for or has been refused. -/

namespace Shopfront.Cart

/-- The product that a request changes. -/
def Request.product? : Request → Option Int
  | .refresh => none
  | .increase p => p.id?
  | .decrease p => p.id?
  | .remove p => p.id?

/-- How much of its product a request asks for, given how much there is. -/
def Request.wanted (quantity : Int) : Request → Int
  | .refresh => quantity
  | .increase _ => quantity + 1
  | .decrease _ => quantity - 1
  | .remove _ => 0

/-- What a request has done to the backend's rows when it ends with a result. -/
inductive Done (request : Request) (before after : List Row) : Result → Prop
  | listed (lines) : request = .refresh → after = before → Done request before after (.lines lines)
  | changed {product} : request.product? = some product →
      Row.total product after = request.wanted (Row.total product before) →
      (Row.total product after = 0 → Row.ofProduct product after = []) →
      (Row.ofProduct product after).length ≤ 1 →
      (∀ q, q ≠ product → Row.ofProduct q after = Row.ofProduct q before) →
      Done request before after (.done true)
  | refused : ((∀ product, request.product? = some product →
      (Row.ofProduct product before).length ≤ 1) → after = before) →
      Done request before after (.done false)

variable {request : Request} {product : Int} {shown : Option Line} {line : Option StoredLine}
variable {before stock extra : List StoredLine}

theorem ofProduct_map_row (product : Int) (stock : List StoredLine) :
    Row.ofProduct product (stock.map StoredLine.row) =
      (stock.filter (·.product == product)).map StoredLine.row := List.filter_map ..

theorem map_row_settleBy (product : Int) (line : Option StoredLine) (stock : List StoredLine) :
    (settleBy StoredLine.product product line stock).map StoredLine.row =
      settleBy Row.product product (line.map StoredLine.row) (stock.map StoredLine.row) := by
  have hkey : ∀ l : StoredLine, l.row.product = l.product := fun _ => rfl
  exact map_settleBy hkey stock

/-! ## Changes that the backend has taken in -/

/-- A request's change has been taken in: the product has its line, and further lines that are still
to be deleted. -/
structure Reducing (request : Request) (before stock : List StoredLine) (product : Int)
    (shown : Option Line) (line : Option StoredLine) (extra : List StoredLine) : Prop where
  asked : request.product? = some product
  wanted : (line.map (·.quantity)).getD 0 =
    request.wanted (Row.total product (before.map StoredLine.row))
  kept : ∀ l ∈ line, l.product = product ∧ 1 ≤ l.quantity
  shown : shown.map Line.row = line.map StoredLine.row ∨ ∃ l, shown = some l ∧ l.id = none
  left : stock.filter (·.product == product) = line.toList ++ extra
  settled : settleBy StoredLine.product product line stock =
    settleBy StoredLine.product product line before

theorem Reducing.row_product (h : Reducing request before stock product shown line extra) :
    ∀ r ∈ line.map StoredLine.row, r.product = product :=
  StoredLine.product_row fun l hl => (h.kept l hl).1

theorem Reducing.rows (h : Reducing request before stock product shown line []) :
    stock.map StoredLine.row =
      settleBy Row.product product (line.map StoredLine.row) (before.map StoredLine.row) := by
  have hleft := h.left
  rw [List.append_nil] at hleft
  rw [← map_row_settleBy, ← h.settled, settleBy_eq_self hleft]

theorem Reducing.done (h : Reducing request before stock product shown line []) :
    Done request (before.map StoredLine.row) (stock.map StoredLine.row) (.done true) := by
  have hrow := h.row_product
  rw [h.rows]
  refine .changed h.asked ?_ ?_ ?_ fun q hq => ?_
  · rw [Row.total_settleBy hrow, if_pos rfl, Option.map_map]
    exact h.wanted
  · rw [Row.total_settleBy hrow, if_pos rfl, Row.ofProduct_settleBy hrow, if_pos rfl]
    cases line with
    | none => exact fun _ => rfl
    | some l =>
      intro hzero
      have hzero : l.quantity = 0 := hzero
      have hpos := (h.kept l rfl).2
      omega
  · rw [Row.ofProduct_settleBy hrow, if_pos rfl]
    cases line <;> simp
  · rw [Row.ofProduct_settleBy hrow, if_neg hq]

/-- One of the further lines is deleted. -/
theorem Reducing.delete {l : StoredLine} (hd : (stock.map StoredLine.id).Nodup)
    (h : Reducing request before stock product shown line (l :: extra)) :
    Reducing request before (settleBy StoredLine.id l.id none stock) product shown line extra := by
  have hmem : ∀ x ∈ line.toList ++ l :: extra, x ∈ stock ∧ x.product = product := by
    intro x hx
    rw [← h.left] at hx
    obtain ⟨hx, hp⟩ := List.mem_filter.mp hx
    exact ⟨hx, by simpa using hp⟩
  have hl := hmem l (by simp)
  have hsame : ∀ x ∈ stock, x.id = l.id → x = l := fun x hx he =>
    List.inj_on_of_nodup_map hd hx hl.1 he
  have hids : ((line.toList ++ l :: extra).map StoredLine.id).Nodup := by
    rw [← h.left]
    exact hd.sublist (List.filter_sublist.map _)
  rw [List.map_append, List.map_cons, List.nodup_append] at hids
  obtain ⟨_, hnew, hapart⟩ := hids
  have hkey : ∀ x ∈ stock, x.id = l.id → x.product = product := by
    intro x hx he
    rw [hsame x hx he]
    exact hl.2
  have hnone : ∀ x ∈ (none : Option StoredLine), x.product = product := fun _ hx => nomatch hx
  refine ⟨h.asked, h.wanted, h.kept, h.shown, ?_, ?_⟩
  · have hkeep : (extra.filter fun x => x.id != l.id) = extra := by
      refine filter_ne_eq_self fun x hx he => ?_
      exact (List.nodup_cons.mp hnew).1 (he ▸ List.mem_map_of_mem hx)
    have hfirst : ∀ x ∈ line.toList, x.id ≠ l.id := fun x hx he =>
      hapart _ (List.mem_map_of_mem hx) _ List.mem_cons_self he
    rw [filter_settleBy (by simp) (by simpa using hkey), h.left,
      settleBy_append hfirst, settleBy, if_pos rfl, hkeep]
    rfl
  · rw [← h.settled]
    refine settleBy_settleBy_of_key hnone hkey ?_
    cases line with
    | none => exact .inl rfl
    | some y =>
      refine .inr (.inr fun x hx => ?_)
      rw [← List.head?_filter, h.left] at hx
      cases hx
      exact fun he => hapart _ (List.mem_cons_self ..) _ List.mem_cons_self he

/-! ## Changes that are sent -/

/-- A change that brings a request about, with what is shown of it. It names the first of the
product's lines. -/
inductive Issued (request : Request) (stock : List StoredLine) (product : Int) :
    Call → Option Line → Prop
  | add {line : Line} : stock.find? (·.product == product) = none → line.id = none →
      line.product = product → request.wanted 0 = 1 →
      Issued request stock product (.addToCart product 1) (some line)
  | update {l quantity} {line : Line} : stock.find? (·.product == product) = some l → 1 ≤ quantity →
      line.row = ⟨some (.number l.id), product, quantity⟩ →
      quantity = request.wanted (Row.total product (stock.map StoredLine.row)) →
      Issued request stock product (.updateCartLine (.int l.id) quantity) (some line)
  | remove {l} : stock.find? (·.product == product) = some l →
      request.wanted (Row.total product (stock.map StoredLine.row)) = 0 →
      Issued request stock product (.removeCartLine (.int l.id)) none

theorem Issued.onCart {call : Call} (h : Issued request stock product call shown) :
    Memory.OnCart call := by
  cases h with
  | add _ _ _ _ => exact .add _ (Int.le_refl 1)
  | update _ _ _ _ => exact .update _ _
  | remove _ _ => exact .remove _

theorem filter_eq_cons_of_find? {l : StoredLine}
    (h : stock.find? (·.product == product) = some l) :
    stock.filter (·.product == product) = l :: (stock.filter (·.product == product)).tail := by
  rw [← List.head?_filter] at h
  obtain ⟨ls, hls⟩ := List.head?_eq_some_iff.mp h
  rw [hls, List.tail_cons]

variable {m m' : Memory} {p : Payload}

/-- The first line of a product gives way to the line that a change makes of it. -/
theorem reducing_keepLine (hw : m.WellStocked) {l : StoredLine}
    (hl : m.cart.find? (·.product == product) = some l) (hasked : request.product? = some product)
    (hkept : ∀ x ∈ line, x.product = product ∧ 1 ≤ x.quantity)
    (hshown : shown.map Line.row = line.map StoredLine.row)
    (hwanted : (line.map (·.quantity)).getD 0 =
      request.wanted (Row.total product (m.cart.map StoredLine.row))) :
    Reducing request m.cart (m.keepLine l.id line).cart product shown line
      (m.cart.filter (·.product == product)).tail := by
  have hmem := List.mem_of_find?_eq_some hl
  have hlp : l.product = product := by simpa using List.find?_some hl
  have hkey : ∀ x ∈ m.cart, x.id = l.id → x.product = product := by
    intro x hx he
    rw [hw.eq_of_id hx hmem he]
    exact hlp
  have hitem : ∀ x ∈ line, x.product = product := fun x hx => (hkept x hx).1
  refine ⟨hasked, hwanted, hkept, .inl hshown, ?_, ?_⟩
  · have hcons := filter_eq_cons_of_find? hl
    have hids : ((m.cart.filter (·.product == product)).map StoredLine.id).Nodup :=
      hw.distinct.sublist (List.filter_sublist.map _)
    rw [hcons, List.map_cons] at hids
    have hkeep : ((m.cart.filter (·.product == product)).tail.filter fun x => x.id != l.id) =
        (m.cart.filter (·.product == product)).tail := by
      refine filter_ne_eq_self fun x hx he => ?_
      exact (List.nodup_cons.mp hids).1 (he ▸ List.mem_map_of_mem hx)
    rw [Memory.keepLine, filter_settleBy (by simpa using hitem) (by simpa using hkey), hcons,
      settleBy, if_pos rfl, List.tail_cons, hkeep]
  · refine settleBy_settleBy_of_key hitem hkey ?_
    cases line with
    | none => exact .inl rfl
    | some _ => exact .inr (.inl rfl)

theorem Issued.served {call : Call} (h : Issued request m.cart product call shown)
    (hw : m.WellStocked) (hasked : request.product? = some product)
    (hs : Memory.Served m call m' (.value p)) :
    ∃ line, Reducing request m.cart m'.cart product shown line
      (m.cart.filter (·.product == product)).tail ∧ Memory.Acknowledges m' line p := by
  have same : ∀ {l l' : StoredLine}, m.cart.find? (·.product == product) = some l → l' ∈ m.cart →
      Payload.int l.id = .int l'.id → l' = l := by
    intro l l' hl hl' he
    have hid := Payload.int.inj he
    exact hw.eq_of_id hl' (List.mem_of_find?_eq_some hl) (by omega)
  cases h with
  | @add line hnew hid hp hwanted =>
    cases hs with
    | raised hl _ _ => cases hnew.symm.trans hl
    | added _ ha =>
      have hfree : m.cart.filter (·.product == product) = [] := by
        rw [List.filter_eq_nil_iff]
        exact List.find?_eq_none.mp hnew
      have hne : ∀ x ∈ m.cart, x.product ≠ product := by
        intro x hx
        simpa using List.find?_eq_none.mp hnew x hx
      refine ⟨some (m.newLine product 1), ⟨hasked, ?_, ?_, .inr ⟨line, rfl, hid⟩, ?_, ?_⟩, ha⟩
      · have hzero : Row.total product (m.cart.map StoredLine.row) = 0 := by
          rw [Row.total, ofProduct_map_row, hfree]
          rfl
        rw [hzero, hwanted]
        rfl
      · intro x hx
        cases hx
        exact ⟨rfl, Int.le_refl 1⟩
      · show (m.cart ++ [m.newLine product 1]).filter _ = _
        rw [List.filter_append, hfree]
        simp [Memory.newLine]
      · show settleBy _ _ _ (m.cart ++ [m.newLine product 1]) = _
        rw [settleBy_append hne, settleBy_of_not_mem hne]
        simp [settleBy, Memory.newLine]
  | @update l quantity line hl hq hrow hwanted =>
    cases hs with
    | updated hl' hname _ hstored ha =>
      cases same hl hl' hname
      have hlp : l.product = product := by simpa using List.find?_some hl
      refine ⟨_, reducing_keepLine hw hl hasked (fun x hx => ?_) ?_ ?_, ha⟩
      · cases hx
        rw [hstored]
        exact ⟨hlp, hq⟩
      · rw [Option.map_some, hrow, hstored, Option.map_some, StoredLine.row, hlp]
      · rw [hstored]
        exact hwanted
  | @remove l hl hwanted =>
    cases hs with
    | removed hl' hname ha =>
      cases same hl hl' hname
      refine ⟨none, reducing_keepLine hw hl hasked (fun _ hx => ?_) rfl hwanted.symm, ha⟩
      cases hx

/-! ## Stages -/

/-- The cart while a change of a product is shown in it. -/
structure Changing (product : Int) (shown : Option Line) (rows : List Row) (c : Cart) : Prop where
  fits : ∀ l ∈ shown, l.product = product
  confirmed : c.confirmed.map Line.row = Row.merged rows
  lines : c.lines = withLine product shown c.confirmed
  folded : ∀ q, foldedIds q c.folded = Row.furtherIds q rows

/-- What has been done when the cart is being loaded again, by what follows. -/
inductive Promised (request : Request) (before after : List Row) : Next → Prop
  | nothing : request = .refresh → after = before → Promised request before after .nothing
  | succeed : Done request before after (.done true) → Promised request before after .succeed
  | fail (message) : Done request before after (.done false) →
      Promised request before after (.fail message)

/-- How far an operation has come, by the lines that the backend kept before and keeps now. -/
inductive Stage (request : Request) (before stock : List StoredLine) (c : Cart) :
    Progress Point Result → Prop
  | ended {result} : Shows c (stock.map StoredLine.row) →
      Done request (before.map StoredLine.row) (stock.map StoredLine.row) result →
      Stage request before stock c (.finished result)
  | loading {next} : Promised request (before.map StoredLine.row) (stock.map StoredLine.row) next →
      Stage request before stock c (.calling .getCart (.loading next))
  | sending {product shown call folding} : request.product? = some product → stock = before →
      Changing product shown (before.map StoredLine.row) c →
      Issued request before product call shown →
      folding = !(Row.furtherIds product (before.map StoredLine.row)).isEmpty →
      Stage request before stock c (.calling call (.sending product shown folding))
  | folding {product shown line l rest} {extra : List StoredLine} :
      Changing product shown (before.map StoredLine.row) c →
      Reducing request before stock product shown line (l :: extra) →
      rest = extra.map (fun x => Reference.number x.id) →
      1 < (Row.ofProduct product (before.map StoredLine.row)).length →
      Stage request before stock c
        (.calling (.removeCartLine (.int l.id)) (.folding product shown rest))

variable {ctx : Context} {c : Cart} (hauth : ctx.authenticated = true)

theorem Reducing.replied (h : Reducing request before m.cart product shown line extra)
    (hw : m.WellStocked) (ha : Memory.Acknowledges m line p) : Replied m product shown line p := by
  refine ⟨hw, fun l hl => ⟨(h.kept l hl).1, ?_⟩, h.shown, ha⟩
  have hmem : l ∈ m.cart.filter (·.product == product) := by
    rw [h.left]
    exact List.mem_append_left _ (Option.mem_toList.mpr hl)
  exact (List.mem_filter.mp hmem).1

/-- Settling a change brings the visible and the confirmed lines to the backend's. -/
theorem Reducing.shows_settleOn (h : Reducing request before stock product shown line [])
    (hconf : c.confirmed.map Line.row = Row.merged (before.map StoredLine.row))
    (hlines : c.lines = withLine product shown c.confirmed)
    (hfold : ∀ q, foldedIds q c.folded = Row.furtherIds q (stock.map StoredLine.row))
    (hshown : ∀ l ∈ shown, l.product = product) {settled : Option Line}
    (he : settled.map Line.row = line.map StoredLine.row)
    (hplace : settled = none ∨ shown.isSome = true) :
    Shows (settleOn c product settled) (stock.map StoredLine.row) := by
  have hsame : withLine product settled c.lines = withLine product settled c.confirmed := by
    rw [hlines, withLine_eq_settleBy, withLine_eq_settleBy, withLine_eq_settleBy,
      settleBy_settleBy hshown hplace]
  refine ⟨?_, hsame.symm, hfold⟩
  show (withLine product settled c.lines).map Line.row = _
  rw [hsame, row_withLine, hconf, he, h.rows, Row.merged_settleBy h.row_product]

include hauth

theorem Settles.stage {s : Step} (hs : Settles ctx c product shown p s)
    (h : Reducing request before m.cart product shown line [])
    (hr : Replied m product shown line p) (hshown : ∀ l ∈ shown, l.product = product)
    (hconf : c.confirmed.map Line.row = Row.merged (before.map StoredLine.row))
    (hlines : c.lines = withLine product shown c.confirmed)
    (hfold : ∀ q, foldedIds q c.folded = Row.furtherIds q (m.cart.map StoredLine.row)) :
    Stage request before m.cart s.state s.progress := by
  induction hs with
  | snapshot hp =>
    cases hr.eq_cartPayload hp
    exact .ended (shows_applySnapshot hr.stocked _ _) h.done
  | @line settled hp hl hid =>
    have he : settled.map Line.row = line.map StoredLine.row := by
      rcases hr.row_settledLine ctx c hp with he | ⟨l, hl', hn, _⟩
      · rwa [hl] at he
      · exact absurd hn (hid l (hl.symm.trans hl'))
    refine .ended (h.shows_settleOn hconf hlines hfold hshown he ?_) h.done
    rcases h.shown with heq | ⟨l, hl', _⟩
    · cases shown with
      | some _ => exact .inr rfl
      | none => exact .inl (Option.map_eq_none_iff.mp (he.trans heq.symm))
    · exact .inr (by rw [hl']; rfl)
  | unnamed hp hl hid =>
    rw [reload, if_pos hauth]
    exact .loading (.succeed h.done)
  | after _ _ ih => exact ih

omit hauth in
theorem foldedIds_filter_ne (product q : Int) (folded : List (Int × Reference)) :
    foldedIds q (folded.filter (·.1 != product)) =
      if q = product then [] else foldedIds q folded := by
  rw [foldedIds, filter_filter_ne]
  split <;> rfl

/-- Further lines are deleted one by one, and then the change is settled. -/
theorem Reducing.stage_foldNext (h : Reducing request before m.cart product shown line extra)
    (hw : m.WellStocked) (ha : Memory.Acknowledges m line p)
    (hc : Changing product shown (before.map StoredLine.row) c)
    (hmany : extra ≠ [] → 1 < (Row.ofProduct product (before.map StoredLine.row)).length) :
    let s := foldNext ctx c product shown p (extra.map fun x => .number x.id)
    Stage request before m.cart s.state s.progress := by
  cases extra with
  | nil =>
    have hr := h.replied hw ha
    refine (settle_settles product shown p).stage hauth h hr hc.fits hc.confirmed hc.lines
      fun q => ?_
    show foldedIds q (c.folded.filter (·.1 != product)) = _
    rw [foldedIds_filter_ne, hc.folded, h.rows, Row.furtherIds_settleBy hr.row_product]
  | cons l extra => exact .folding hc h rfl (hmany (List.cons_ne_nil l extra))

theorem Changing.stage_revert {folding : Bool} (f : Failure)
    (hc : Changing product shown (before.map StoredLine.row) c)
    (hd : Done request (before.map StoredLine.row) (stock.map StoredLine.row) (.done false))
    (hstock : folding = false → stock = before) :
    let s := revert ctx c product folding f
    Stage request before stock s.state s.progress := by
  intro s
  cases folding with
  | false =>
    cases hstock rfl
    exact .ended ⟨hc.confirmed, rfl, hc.folded⟩ hd
  | true =>
    have hs : s = (reload ctx { c with lines := c.confirmed }
      (.fail (f.userMessage updateFailed))).after _ := rfl
    rw [hs, reload, if_pos hauth]
    exact .loading (.fail _ hd)

omit hauth in
theorem furtherIds_map_row (product : Int) (stock : List StoredLine) :
    Row.furtherIds product (stock.map StoredLine.row) =
      (stock.filter (·.product == product)).tail.map fun x => .number x.id := by
  rw [Row.furtherIds, ofProduct_map_row, ← List.map_tail, List.filterMap_map]
  exact congrFun List.filterMap_eq_map _

omit hauth in
theorem Stage.onCart {call : Call} {point : Point}
    (h : Stage request before stock c (.calling call point)) : Memory.OnCart call := by
  cases h with
  | loading _ => exact .list
  | sending _ _ _ hissued _ => exact hissued.onCart
  | folding _ _ _ _ => exact .remove _

omit hauth in
theorem Stage.answered_loading {next : Next} (hw : m.WellStocked)
    (h : Promised request (before.map StoredLine.row) (m.cart.map StoredLine.row) next) :
    let s := resume ctx c (.loading next) (.value m.cartPayload)
    Stage request before m.cart s.state s.progress := by
  obtain ⟨hl, hc, hf⟩ := shows_loaded hw ctx c
  cases h with
  | nothing hr he => exact .ended ⟨hl, hc, hf⟩ (.listed _ hr he)
  | succeed hd => exact .ended ⟨hl, hc, hf⟩ hd
  | fail message hd => exact .ended ⟨hl, hc, hf⟩ hd

theorem Stage.answered_sending {call : Call} {reply : Reply} {folding : Bool}
    (hw : m.WellStocked) (hasked : request.product? = some product)
    (hc : Changing product shown (m.cart.map StoredLine.row) c)
    (hissued : Issued request m.cart product call shown)
    (hfolding : folding = !(Row.furtherIds product (m.cart.map StoredLine.row)).isEmpty)
    (hs : Memory.Served m call m' reply) :
    let s := resume ctx c (.sending product shown folding) reply
    Stage request m.cart m'.cart s.state s.progress := by
  cases reply with
  | value p =>
    obtain ⟨line, hreducing, hack⟩ := hissued.served hw hasked hs
    have hw' := hs.wellStocked hw hissued.onCart
    have hfold := hc.folded product
    rw [furtherIds_map_row] at hfold hfolding
    cases folding with
    | true =>
      show Stage _ _ _ (foldNext ctx c product shown p (foldedIds product c.folded)).state
        (foldNext ctx c product shown p (foldedIds product c.folded)).progress
      rw [hfold]
      refine hreducing.stage_foldNext hauth hw' hack hc fun hne => ?_
      rw [ofProduct_map_row, List.length_map]
      have hlen := List.length_pos_iff.mpr hne
      rw [List.length_tail] at hlen
      omega
    | false =>
      have hempty := congrArg Bool.not hfolding
      rw [Bool.not_not] at hempty
      have hnil := List.map_eq_nil_iff.mp (List.isEmpty_iff.mp hempty.symm)
      rw [hnil] at hreducing
      have hr := hreducing.replied hw' hack
      refine (settle_settles product shown p).stage hauth hreducing hr hc.fits hc.confirmed hc.lines
        fun q => ?_
      rw [hreducing.rows, Row.furtherIds_settleBy hr.row_product]
      split
      · next hq =>
        rw [hq, hfold, hnil]
        rfl
      · exact hc.folded q
  | failure f =>
    cases hs with
    | refused _ hcart _ _ =>
      rw [hcart]
      cases folding with
      | true => exact hc.stage_revert hauth f (.refused fun _ => rfl) fun _ => rfl
      | false => exact hc.stage_revert hauth f (.refused fun _ => rfl) fun _ => rfl
  | fault _ => cases hs

theorem Stage.answered_folding {reply : Reply} {l : StoredLine} (hw : m.WellStocked)
    (hc : Changing product shown (before.map StoredLine.row) c)
    (h : Reducing request before m.cart product shown line (l :: extra))
    (hmany : 1 < (Row.ofProduct product (before.map StoredLine.row)).length)
    (hs : Memory.Served m (.removeCartLine (.int l.id)) m' reply) :
    let s := resume ctx c (.folding product shown (extra.map fun x => .number x.id)) reply
    Stage request before m'.cart s.state s.progress := by
  have hw' := hs.wellStocked hw (.remove _)
  have hrefused : ∀ after, Done request (before.map StoredLine.row) after (.done false) := by
    refine fun after => .refused fun hone => ?_
    have hlen := hone product h.asked
    omega
  cases reply with
  | value p =>
    cases hs with
    | @removed l' _ _ hl' hname ha =>
      have hid : l.id = l'.id := by
        have he := Payload.int.inj hname
        omega
      have hdeleted := h.delete hw.distinct
      rw [hid] at hdeleted
      have hack : Memory.Acknowledges (m.keepLine l'.id none) line p := by
        cases ha with
        | snapshot => exact .snapshot
        | line hl => cases hl
        | note message => exact .note message
      exact hdeleted.stage_foldNext hauth hw' hack hc fun _ => hmany
  | failure f => exact hc.stage_revert hauth f (hrefused _) fun he => nomatch he
  | fault _ => cases hs

/-- An answer takes an operation to its next stage. -/
theorem Stage.answered {call : Call} {point : Point} (hw : m.WellStocked)
    (hspared : ∀ f ∈ m.failures, f.1 ≠ .getCart)
    (h : Stage request before m.cart c (.calling call point)) :
    let s := resume ctx c point (m.serve true call).2
    Stage request before (m.serve true call).1.cart s.state s.progress := by
  have hserved := hw.serve_served h.onCart
  cases h with
  | loading hpromised =>
    rw [Memory.serve_getCart hspared]
    exact answered_loading hw hpromised
  | sending hasked hstock hc hissued hfolding =>
    subst hstock
    exact answered_sending hauth hw hasked hc hissued hfolding hserved
  | folding hc hreducing hrest hmany =>
    subst hrest
    exact answered_folding hauth hw hc hreducing hmany hserved

/-! ## Beginnings -/

omit hauth

/-- The line that is shown of a product, and the first line that the backend keeps of it. -/
theorem Shows.lineOf? (h : Shows c (stock.map StoredLine.row)) (product : Int) :
    (lineOf? product c.lines = none ∧ stock.find? (·.product == product) = none) ∨
      ∃ line l, lineOf? product c.lines = some line ∧
        stock.find? (·.product == product) = some l ∧
        line.row = ⟨some (.number l.id), product, Row.total product (stock.map StoredLine.row)⟩ := by
  have hrows := ofProduct_map_row product stock
  rw [← List.head?_filter]
  rcases h.lineOfRows? product with ⟨hline, hnone⟩ | ⟨line, hline, hrow, hsome⟩
  · rw [hrows, List.map_eq_nil_iff] at hnone
    exact .inl ⟨hline, by rw [hnone]; rfl⟩
  · obtain ⟨l, more, hl⟩ := List.exists_cons_of_ne_nil (mt List.map_eq_nil_iff.mpr (hrows ▸ hsome))
    refine .inr ⟨line, l, hline, by rw [hl]; rfl, ?_⟩
    rw [hrow, Row.combined, hrows, hl]
    rfl

theorem total_pos (hpos : ∀ l ∈ stock, 1 ≤ l.quantity) {l : StoredLine}
    (hl : stock.find? (·.product == product) = some l) :
    1 ≤ Row.total product (stock.map StoredLine.row) := by
  refine Row.one_le_total (fun r hr => ?_) ?_
  · obtain ⟨x, hx, rfl⟩ := List.mem_map.mp hr
    exact hpos x hx
  · rw [ofProduct_map_row, filter_eq_cons_of_find? hl]
    exact List.cons_ne_nil _ _

theorem Issued.fits {call : Call} (h : Issued request stock product call shown) :
    ∀ l ∈ shown, l.product = product := by
  intro l hl
  cases h with
  | add _ _ hp _ => cases hl; exact hp
  | update _ _ hrow _ => cases hl; exact (Row.mk.inj hrow).2.1
  | remove _ _ => cases hl

theorem Shows.stage_send {call : Call} (h : Shows c (stock.map StoredLine.row))
    (hasked : request.product? = some product) (hi : Issued request stock product call shown) :
    let s := send c product shown call
    Stage request stock stock s.state s.progress := by
  have hconf : c.confirmed.map Line.row = Row.merged (stock.map StoredLine.row) := by
    rw [h.confirmed, h.lines]
  refine .sending hasked rfl ⟨hi.fits, hconf, ?_, h.folded⟩ hi ?_
  · show withLine product shown c.lines = withLine product shown c.confirmed
    rw [h.confirmed]
  · rw [h.folded]

theorem Shows.stage_refused (h : Shows c (stock.map StoredLine.row)) :
    Stage request stock stock c (.finished (.done false)) := .ended h (.refused fun _ => rfl)

theorem increase_stage (hw : m.WellStocked) (h : Shows c (m.cart.map StoredLine.row))
    {payload : Payload} (hp : payload.id? = some product) :
    let s := increase ctx c product
    Stage (.increase payload) m.cart m.cart s.state s.progress := by
  rcases h.lineOf? product with ⟨hline, hfree⟩ | ⟨line, l, hline, hl, hrow⟩
  · simp only [increase, hline]
    exact h.stage_send hp (.add hfree rfl rfl rfl)
  · obtain ⟨hid, hproduct, hq⟩ := Row.mk.inj hrow
    have hpos := total_pos hw.positive hl
    simp only [increase, hline, hid]
    refine h.stage_send hp (.update hl ?_ ?_ ?_)
    · omega
    · simp only [Line.row, hproduct]
    · rw [hq]
      rfl

theorem remove_stage (h : Shows c (m.cart.map StoredLine.row))
    (hasked : request.product? = some product)
    (hwanted : ∀ l, m.cart.find? (·.product == product) = some l →
      request.wanted (Row.total product (m.cart.map StoredLine.row)) = 0) :
    let s := remove ctx c product
    Stage request m.cart m.cart s.state s.progress := by
  rcases h.lineOf? product with ⟨hline, _⟩ | ⟨line, l, hline, hl, hrow⟩
  · simp only [remove, hline]
    exact h.stage_refused
  · obtain ⟨hid, _, _⟩ := Row.mk.inj hrow
    simp only [remove, hline, hid]
    exact h.stage_send hasked (.remove hl (hwanted l hl))

theorem decrease_stage (hw : m.WellStocked) (h : Shows c (m.cart.map StoredLine.row))
    {payload : Payload} (hp : payload.id? = some product) :
    let s := decrease ctx c product
    Stage (.decrease payload) m.cart m.cart s.state s.progress := by
  rcases h.lineOf? product with ⟨hline, _⟩ | ⟨line, l, hline, hl, hrow⟩
  · simp only [decrease, hline]
    exact h.stage_refused
  · obtain ⟨hid, hproduct, hq⟩ := Row.mk.inj hrow
    have hpos := total_pos hw.positive hl
    by_cases hlast : line.quantity ≤ 1
    · simp only [decrease, hline, if_pos hlast]
      refine remove_stage h hp fun l' hl' => ?_
      show Row.total product (m.cart.map StoredLine.row) - 1 = 0
      omega
    · simp only [decrease, hline, if_neg hlast, hid, decreaseKnown]
      refine h.stage_send hp (.update hl ?_ ?_ ?_)
      · omega
      · simp only [Line.row, hproduct]
      · rw [hq]
        rfl

theorem gated_stage (hauth : ctx.authenticated = true) (h : Shows c (m.cart.map StoredLine.row))
    (action : String) (payload : Payload) {run : Int → Step}
    (hrun : ∀ product, payload.id? = some product →
      Stage request m.cart m.cart (run product).state (run product).progress) :
    let s := gated ctx c action payload run
    Stage request m.cart m.cart s.state s.progress := by
  cases hp : payload.id? with
  | none =>
    simp only [gated, gate, hauth, hp, if_true]
    exact h.stage_refused
  | some product =>
    simp only [gated, gate, hauth, hp, if_true]
    exact hrun product hp

/-- A request to a cart that shows the backend's lines is at a stage when it has begun. -/
theorem begin_stage (hauth : ctx.authenticated = true) (hw : m.WellStocked)
    (h : Shows c (m.cart.map StoredLine.row)) (request : Request) :
    let s := begin ctx c request
    Stage request m.cart m.cart s.state s.progress := by
  cases request with
  | refresh =>
    simp only [begin, reload, hauth, if_true]
    exact .loading (.nothing rfl rfl)
  | increase payload =>
    exact gated_stage hauth h _ payload fun _ hp => increase_stage hw h hp
  | decrease payload =>
    exact gated_stage hauth h _ payload fun _ hp => decrease_stage hw h hp
  | remove payload =>
    exact gated_stage hauth h _ payload fun _ hp => remove_stage h hp fun _ _ => rfl

end Shopfront.Cart
