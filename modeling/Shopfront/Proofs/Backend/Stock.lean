import Shopfront.Backend.Memory
import Shopfront.Proofs.Cart.Row

/-! The cart that the backend in memory keeps. Every line has an id of its own, given out in order,
and a quantity of at least one. Main statements: what a call on the cart may do (`serve_served`), and
that the lines stay as described (`Served.wellStocked`). -/

namespace Shopfront

theorem Integer.text_natCast_inj {m n : Nat} (h : Integer.text m = Integer.text n) : m = n := by
  have hdigits : Nat.toDigits 10 m = Nat.toDigits 10 n := String.ofList_injective h
  rw [← Nat.ofDigitChars_ten_toDigits (n := m), hdigits, Nat.ofDigitChars_ten_toDigits]

def StoredLine.row (l : StoredLine) : Cart.Row := ⟨some (.number l.id), l.product, l.quantity⟩

theorem StoredLine.product_row {product : Int} {line : Option StoredLine}
    (h : ∀ l ∈ line, l.product = product) : ∀ r ∈ line.map StoredLine.row, r.product = product := by
  intro r hr
  obtain ⟨l, hl, rfl⟩ := Option.map_eq_some_iff.mp hr
  exact h l hl

def StoredLine.report (l : StoredLine) : Cart.Report :=
  ⟨some (.number l.id), l.product, l.quantity, none⟩

namespace Memory

def rows (m : Memory) : List Cart.Row := m.cart.map StoredLine.row

structure WellStocked (m : Memory) : Prop where
  distinct : (m.cart.map StoredLine.id).Nodup
  fresh : ∀ l ∈ m.cart, l.id < m.nextLine
  positive : ∀ l ∈ m.cart, 1 ≤ l.quantity

/-- At most one line a product. -/
def Single (m : Memory) : Prop := (m.cart.map StoredLine.product).Nodup

theorem single_iff {m : Memory} : m.Single ↔ (m.rows.map (·.product)).Nodup := by
  rw [rows, List.map_map]
  exact Iff.rfl

/-- The line with an id replaced, or dropped for `none`. -/
def keepLine (m : Memory) (id : Nat) (line : Option StoredLine) : Memory :=
  { m with cart := settleBy StoredLine.id id line m.cart }

variable {m : Memory}

theorem WellStocked.settle (h : m.WellStocked) {m' : Memory} {id : Nat} {line : Option StoredLine}
    (hcart : m'.cart = settleBy StoredLine.id id line m.cart) (hnext : m.nextLine ≤ m'.nextLine)
    (hline : ∀ l ∈ line, l.id = id ∧ l.id < m'.nextLine ∧ 1 ≤ l.quantity) : m'.WellStocked := by
  refine ⟨?_, fun l hl => ?_, fun l hl => ?_⟩
  · rw [hcart]
    exact nodup_settleBy (fun l hl => (hline l hl).1) h.distinct
  · rw [hcart] at hl
    rcases mem_settleBy hl with hl | hl
    · exact (hline l hl).2.1
    · exact Nat.lt_of_lt_of_le (h.fresh l hl) hnext
  · rw [hcart] at hl
    rcases mem_settleBy hl with hl | hl
    · exact (hline l hl).2.2
    · exact h.positive l hl

/-- A new line takes an id that no line has. -/
theorem WellStocked.cart_appendLine (h : m.WellStocked) (product quantity : Int) :
    (m.appendLine product quantity).cart =
      settleBy StoredLine.id m.nextLine (some (m.newLine product quantity)) m.cart := by
  have hnew : ∀ l ∈ m.cart, l.id ≠ m.nextLine := fun l hl => Nat.ne_of_lt (h.fresh l hl)
  rw [settleBy_of_not_mem hnew]
  rfl

theorem WellStocked.appendLine (h : m.WellStocked) (product : Int) {quantity : Int}
    (hq : 1 ≤ quantity) : (m.appendLine product quantity).WellStocked := by
  refine h.settle (h.cart_appendLine product quantity) (Nat.le_succ _) fun l hl => ?_
  cases hl
  exact ⟨rfl, Nat.lt_succ_self _, hq⟩

theorem WellStocked.eq_of_id (h : m.WellStocked) {l l' : StoredLine} (hl : l ∈ m.cart)
    (hl' : l' ∈ m.cart) (he : l.id = l'.id) : l = l' :=
  List.inj_on_of_nodup_map h.distinct hl hl' he

/-- The only line of a product may be told by its id or by its product. -/
theorem WellStocked.settleBy_product (h : m.WellStocked) {l : StoredLine} (hl : l ∈ m.cart)
    (hone : ∀ l' ∈ m.cart, l'.product = l.product → l' = l) (line : Option StoredLine) :
    settleBy StoredLine.id l.id line m.cart =
      settleBy StoredLine.product l.product line m.cart := by
  refine settleBy_congr fun l' hl' => ⟨fun he => ?_, fun he => ?_⟩
  · rw [h.eq_of_id hl' hl he]
  · rw [hone l' hl' he]

/-- A change of the only line of a product, as the rows show it. -/
theorem WellStocked.rows_keepLine (h : m.WellStocked) {l : StoredLine} (hl : l ∈ m.cart)
    (hone : ∀ l' ∈ m.cart, l'.product = l.product → l' = l) (line : Option StoredLine) :
    (m.keepLine l.id line).rows =
      settleBy Cart.Row.product l.product (line.map StoredLine.row) m.rows := by
  have hkey : ∀ x : StoredLine, x.row.product = x.product := fun _ => rfl
  rw [rows, keepLine, h.settleBy_product hl hone]
  exact map_settleBy hkey m.cart

theorem rows_appendLine {product : Int} (h : m.cart.find? (·.product == product) = none)
    (quantity : Int) : (m.appendLine product quantity).rows =
      settleBy Cart.Row.product product (some (m.newLine product quantity).row) m.rows := by
  have hne : ∀ r ∈ m.rows, r.product ≠ product := by
    intro r hr
    obtain ⟨l, hl, rfl⟩ := List.mem_map.mp hr
    simpa [StoredLine.row] using List.find?_eq_none.mp h l hl
  rw [settleBy_of_not_mem hne]
  exact List.map_append

/-! ## Replies as the cart reads them -/

open Cart (acknowledgedId? reportedRows)

@[simp] theorem report?_payload (l : StoredLine) :
    Cart.Report.ofPayload? l.payload = some l.report := rfl

@[simp] theorem report?_note (message : String) : Cart.Report.ofPayload? (note message) = none := rfl

@[simp] theorem acknowledgedId?_note (message : String) : acknowledgedId? (note message) = none := rfl

theorem WellStocked.reportedRows_cartPayload (h : m.WellStocked) :
    reportedRows (Cart.Report.listOf m.cartPayload) = m.rows := by
  have hlist : Cart.Report.listOf m.cartPayload = m.cart.map StoredLine.report := by
    show (m.cart.map StoredLine.payload).filterMap Cart.Report.ofPayload? = _
    rw [List.filterMap_map]
    exact congrFun List.filterMap_eq_map m.cart
  have hkept : ((m.cart.map StoredLine.report).filter fun r => 1 ≤ r.quantity) =
      m.cart.map StoredLine.report := by
    refine List.filter_eq_self.mpr fun r hr => ?_
    obtain ⟨l, hl, rfl⟩ := List.mem_map.mp hr
    exact decide_eq_true (h.positive l hl)
  rw [hlist, reportedRows, hkept, List.map_map]
  rfl

/-! ## Calls -/

/-- What a change may be answered with: the whole cart, the line, or neither. -/
inductive Acknowledges (m : Memory) (line : Option StoredLine) : Payload → Prop
  | snapshot : Acknowledges m line m.cartPayload
  | line {l} : line = some l → Acknowledges m line l.payload
  | note (message) : Acknowledges m line (note message)

theorem changeReply_acknowledges (m : Memory) (line : Option StoredLine) (message : String) :
    ∃ p, m.changeReply line message = .value p ∧ Acknowledges m line p := by
  unfold changeReply
  split
  · exact ⟨_, rfl, .snapshot⟩
  · exact ⟨_, rfl, .line rfl⟩
  · exact ⟨_, rfl, .note message⟩

/-- What a call on the cart may do. -/
inductive Served (m : Memory) : Call → Memory → Reply → Prop
  | refused {call m'} (failure) : m'.cart = m.cart → m'.nextLine = m.nextLine →
      m'.failures ⊆ m.failures → Served m call m' (.failure failure)
  | listed : Served m .getCart m (.value m.cartPayload)
  | raised {product quantity l line p} : m.cart.find? (·.product == product) = some l →
      line = { l with quantity := l.quantity + quantity } →
      Acknowledges (m.keepLine l.id (some line)) (some line) p →
      Served m (.addToCart product quantity) (m.keepLine l.id (some line)) (.value p)
  | added {product quantity p} : m.cart.find? (·.product == product) = none →
      Acknowledges (m.appendLine product quantity) (some (m.newLine product quantity)) p →
      Served m (.addToCart product quantity) (m.appendLine product quantity) (.value p)
  | updated {l name quantity line p} : l ∈ m.cart → name = .int l.id → 1 ≤ quantity →
      line = { l with quantity } → Acknowledges (m.keepLine l.id (some line)) (some line) p →
      Served m (.updateCartLine name quantity) (m.keepLine l.id (some line)) (.value p)
  | removed {l name p} : l ∈ m.cart → name = .int l.id →
      Acknowledges (m.keepLine l.id none) none p →
      Served m (.removeCartLine name) (m.keepLine l.id none) (.value p)

/-- A call on the cart, with a line's id for its name. -/
inductive OnCart : Call → Prop
  | list : OnCart .getCart
  | add (product) {quantity} : 1 ≤ quantity → OnCart (.addToCart product quantity)
  | update (id : Nat) (quantity) : OnCart (.updateCartLine (.int id) quantity)
  | remove (id : Nat) : OnCart (.removeCartLine (.int id))

theorem lineNamed?_natCast (m : Memory) (id : Nat) :
    m.lineNamed? (.int id) = m.cart.find? (·.id == id) := by
  refine congrArg (m.cart.find? ·) (funext fun l => ?_)
  show (Integer.text l.id == Integer.text id) = (l.id == id)
  rw [Bool.eq_iff_iff, beq_iff_eq, beq_iff_eq]
  exact ⟨Integer.text_natCast_inj, fun h => h ▸ rfl⟩

theorem WellStocked.map_eq_keepLine (h : m.WellStocked) {l : StoredLine} (hl : l ∈ m.cart)
    (line : StoredLine) :
    { m with cart := m.cart.map fun x => if x.id = l.id then line else x } =
      m.keepLine l.id (some line) := by
  rw [keepLine, settleBy_eq_map h.distinct (List.mem_map_of_mem hl)]

theorem WellStocked.act_served (h : m.WellStocked) {call : Call} (hc : OnCart call) :
    Served m call (m.act call).1 (m.act call).2 := by
  have named : ∀ {id : Nat} {l}, m.lineNamed? (.int id) = some l → l ∈ m.cart ∧ l.id = id := by
    intro id l hl
    rw [lineNamed?_natCast] at hl
    exact ⟨List.mem_of_find?_eq_some hl, by simpa using List.find?_some hl⟩
  cases hc with
  | list => exact .listed
  | @add product quantity _ =>
    simp only [act, addToCart]
    split
    · next l hl =>
      rw [h.map_eq_keepLine (List.mem_of_find?_eq_some hl)]
      obtain ⟨p, hp, ha⟩ := changeReply_acknowledges
        (m.keepLine l.id (some { l with quantity := l.quantity + quantity }))
        (some { l with quantity := l.quantity + quantity }) "Item added to cart successfully"
      rw [hp]
      exact .raised hl rfl ha
    · next hl =>
      obtain ⟨p, hp, ha⟩ := changeReply_acknowledges (m.appendLine product quantity)
        (some (m.newLine product quantity)) "Item added to cart successfully"
      rw [hp]
      exact .added hl ha
  | update id quantity =>
    simp only [act, updateCartLine]
    split
    · exact .refused _ rfl rfl fun _ hx => hx
    next hq =>
    split
    · exact .refused _ rfl rfl fun _ hx => hx
    · next l hl =>
      obtain ⟨hmem, rfl⟩ := named hl
      rw [h.map_eq_keepLine hmem]
      obtain ⟨p, hp, ha⟩ := changeReply_acknowledges (m.keepLine l.id (some { l with quantity }))
        (some { l with quantity }) "Item quantity updated successfully"
      rw [hp]
      exact .updated hmem rfl (Int.not_lt.mp hq) rfl ha
  | remove id =>
    simp only [act, removeCartLine]
    split
    · exact .refused _ rfl rfl fun _ hx => hx
    · next l hl =>
      obtain ⟨hmem, rfl⟩ := named hl
      have hkeep : { m with cart := m.cart.filter (·.id != l.id) } = m.keepLine l.id none := by
        rw [keepLine, settleBy_none]
      rw [hkeep]
      obtain ⟨p, hp, ha⟩ := changeReply_acknowledges (m.keepLine l.id none) none
        "Item removed from cart successfully"
      rw [hp]
      exact .removed hmem rfl ha

theorem takeFirst_subset {α : Type} (e : Endpoint) (xs : List (Endpoint × α)) :
    (e.takeFirst xs).2 ⊆ xs := by
  induction xs with
  | nil => exact fun _ h => h
  | cons x xs ih =>
    rw [Endpoint.takeFirst]
    split
    · exact List.subset_cons_self _ _
    · exact List.cons_subset_cons _ ih

theorem takeFirst_eq_none {α : Type} {e : Endpoint} {xs : List (Endpoint × α)}
    (h : ∀ x ∈ xs, x.1 ≠ e) : (e.takeFirst xs).1 = none := by
  induction xs with
  | nil => rfl
  | cons x xs ih =>
    obtain ⟨hx, hxs⟩ := List.forall_mem_cons.mp h
    rw [Endpoint.takeFirst, if_neg hx]
    exact ih hxs

theorem WellStocked.serve_served (h : m.WellStocked) {call : Call} (hc : OnCart call) :
    Served m call (m.serve true call).1 (m.serve true call).2 := by
  have hsub := takeFirst_subset call.endpoint m.failures
  simp only [serve, Bool.not_true, Bool.false_and, Bool.false_eq_true, if_false]
  split
  · next f rest he =>
    rw [he] at hsub
    exact .refused f rfl rfl hsub
  · exact h.act_served hc

/-- Without a failure in store the cart is listed. -/
theorem serve_getCart (h : ∀ x ∈ m.failures, x.1 ≠ .getCart) :
    m.serve true .getCart = (m, .value m.cartPayload) := by
  have hnone : (Call.getCart.endpoint.takeFirst m.failures).1 = none := takeFirst_eq_none h
  simp only [serve, Bool.not_true, Bool.false_and, Bool.false_eq_true, if_false]
  split
  · next he =>
    rw [he] at hnone
    cases hnone
  · rfl

theorem Served.wellStocked {call : Call} {m' : Memory} {reply : Reply} (hs : Served m call m' reply)
    (h : m.WellStocked) (hc : OnCart call) : m'.WellStocked := by
  cases hs with
  | refused _ hcart hnext _ =>
    refine ⟨?_, ?_, ?_⟩
    · rw [hcart]; exact h.distinct
    · rw [hcart, hnext]; exact h.fresh
    · rw [hcart]; exact h.positive
  | listed => exact h
  | @raised product quantity l line p hl hline _ =>
    have hmem := List.mem_of_find?_eq_some hl
    have hpos := h.positive l hmem
    cases hc with
    | add _ hq =>
      refine h.settle rfl (Nat.le_refl _) fun l' hl' => ?_
      cases hl'
      rw [hline]
      exact ⟨rfl, h.fresh l hmem, by show 1 ≤ l.quantity + quantity; omega⟩
  | added _ _ =>
    cases hc with
    | add _ hq => exact h.appendLine _ hq
  | @updated l name quantity line p hmem _ hq hline _ =>
    refine h.settle rfl (Nat.le_refl _) fun l' hl' => ?_
    cases hl'
    rw [hline]
    exact ⟨rfl, h.fresh l hmem, hq⟩
  | removed _ _ _ => exact h.settle rfl (Nat.le_refl _) fun _ hl' => nomatch hl'

/-- An id that was given out, and that names a line of no other product. -/
structure Knows (m : Memory) (id : Nat) (product : Int) : Prop where
  given : id < m.nextLine
  product : ∀ l ∈ m.cart, l.id = id → l.product = product

theorem WellStocked.knows (h : m.WellStocked) {l : StoredLine} (hl : l ∈ m.cart) :
    m.Knows l.id l.product := by
  refine ⟨h.fresh l hl, fun l' hl' he => ?_⟩
  rw [h.eq_of_id hl' hl he]

/-- An id stays with its product. -/
theorem Served.knows {call : Call} {m' : Memory} {reply : Reply} (hs : Served m call m' reply)
    {id : Nat} {product : Int} (h : m.Knows id product) : m'.Knows id product := by
  have kept : ∀ {l line : StoredLine}, l ∈ m.cart → line.id = l.id → line.product = l.product →
      (m.keepLine l.id (some line)).Knows id product := by
    intro l line hl hid hp
    refine ⟨h.given, fun x hx he => ?_⟩
    rcases mem_settleBy hx with hx | hx
    · cases hx
      exact hp.trans (h.product l hl (hid.symm.trans he))
    · exact h.product x hx he
  cases hs with
  | refused _ hcart hnext _ => exact ⟨hnext ▸ h.given, hcart ▸ h.product⟩
  | listed => exact h
  | raised hl hline _ => exact kept (List.mem_of_find?_eq_some hl) (by rw [hline]) (by rw [hline])
  | added _ _ =>
    refine ⟨Nat.lt_succ_of_lt h.given, fun x hx he => ?_⟩
    rcases List.mem_append.mp hx with hx | hx
    · exact h.product x hx he
    · cases List.mem_singleton.mp hx
      exact absurd he (Nat.ne_of_gt h.given)
  | updated hl _ _ hline _ => exact kept hl (by rw [hline]) (by rw [hline])
  | removed _ _ _ =>
    refine ⟨h.given, fun x hx he => ?_⟩
    rcases mem_settleBy hx with hx | hx
    · cases hx
    · exact h.product x hx he

theorem Served.failures {call : Call} {m' : Memory} {reply : Reply}
    (hs : Served m call m' reply) : m'.failures ⊆ m.failures := by
  cases hs with
  | refused _ _ _ hf => exact hf
  | _ => exact fun _ hx => hx

/-! ## Failures in store -/

theorem WellStocked.failNext (h : m.WellStocked) (endpoint : Endpoint) (status : Option Int)
    (error : Option String) : (m.failNext endpoint status error).WellStocked :=
  ⟨h.distinct, h.fresh, h.positive⟩

theorem spares_failNext {spared endpoint : Endpoint} (h : ∀ f ∈ m.failures, f.1 ≠ spared)
    (he : endpoint ≠ spared) (status : Option Int) (error : Option String) :
    ∀ f ∈ (m.failNext endpoint status error).failures, f.1 ≠ spared := by
  intro f hf
  rcases List.mem_append.mp hf with hf | hf
  · exact h f hf
  · cases List.mem_singleton.mp hf
    exact he

end Memory

end Shopfront
