import Shopfront.Proofs.Cart.Stage

/-! Increases of one product that overlap, on a backend that keeps several lines of it and answers in
the order of the calls. Each increase puts its quantity on the first line and then goes on to delete
the others. Only the first finds them there; the rest are refused and load the cart again. Main
statement: which quantity is shown in the end, and which the backend keeps (`shown_after_increases`).
With up to three lines they are the same. With more, the first increase is still deleting when the
last of the others has loaded the cart, and what it settles on is out of date. -/

namespace Shopfront

namespace Memory

variable {m : Memory} {l : StoredLine} {product quantity : Int}

/-! ## Single calls -/

theorem WellStocked.lineNamed?_of_mem (h : m.WellStocked) (hl : l ∈ m.cart) :
    m.lineNamed? (.int l.id) = some l := by
  rw [lineNamed?_natCast]
  exact find?_of_nodup h.distinct hl

theorem WellStocked.act_update (h : m.WellStocked) (hl : l ∈ m.cart) (hq : 1 ≤ quantity)
    (hack : m.cartReply = .acknowledgement) :
    m.act (.updateCartLine (.int l.id) quantity) = (m.keepLine l.id (some { l with quantity }),
      .value (note "Item quantity updated successfully")) := by
  simp only [act, updateCartLine, if_neg (Int.not_lt.mpr hq), h.lineNamed?_of_mem hl,
    h.map_eq_keepLine hl]
  simp [changeReply, keepLine, hack]

theorem WellStocked.act_remove (h : m.WellStocked) (hl : l ∈ m.cart)
    (hack : m.cartReply = .acknowledgement) :
    m.act (.removeCartLine (.int l.id)) =
      (m.keepLine l.id none, .value (note "Item removed from cart successfully")) := by
  simp only [act, removeCartLine, h.lineNamed?_of_mem hl]
  simp [changeReply, keepLine, settleBy_none, hack]

theorem act_remove_of_not_mem {id : Nat} (h : ∀ l ∈ m.cart, l.id ≠ id) :
    m.act (.removeCartLine (.int id)) = (m, .failure noSuchLine) := by
  have hnone : m.lineNamed? (.int id) = none := by
    rw [lineNamed?_natCast, List.find?_eq_none]
    simpa using h
  simp only [act, removeCartLine, hnone]

/-- A change of one of a product's lines is seen among the product's lines only. -/
theorem WellStocked.filter_keepLine (h : m.WellStocked) (hl : l ∈ m.cart) (hp : l.product = product)
    {line : Option StoredLine} (hline : ∀ x ∈ line, x.product = product) :
    (m.keepLine l.id line).cart.filter (·.product == product) =
      settleBy StoredLine.id l.id line (m.cart.filter (·.product == product)) := by
  refine filter_settleBy (by simpa using hline) fun x hx he => ?_
  rw [h.eq_of_id hx hl he]
  simpa using hp

end Memory

namespace Cart

/-! ## Calls that wait -/

/-- An increase has sent the quantity for the product's first line. -/
def putting (product : Int) (l : StoredLine) (shown : Line) : Awaited Point :=
  ⟨.updateCartLine (.int l.id) shown.quantity, .sending product (some shown) true⟩

/-- An increase has asked for a further line to be deleted, and the rest will follow. -/
def deleting (product : Int) (l : StoredLine) (rest : List StoredLine) (shown : Line) :
    Awaited Point :=
  ⟨.removeCartLine (.int l.id), .folding product (some shown) (rest.map fun x => .number x.id)⟩

/-- An increase that was refused loads the cart again. -/
def reloading : Awaited Point :=
  ⟨.getCart, .loading (.fail (Memory.noSuchLine.userMessage updateFailed))⟩

namespace Exchange

/-- The first of the calls that wait is answered, a number of times. -/
def answers (catalog : Catalog) (x : Exchange) (count : Nat) : Exchange :=
  run catalog x (.replicate count (.answer 0))

variable {catalog : Catalog} {x : Exchange}

theorem answers_succ (count : Nat) :
    x.answers catalog (count + 1) = (x.handle catalog (.answer 0)).answers catalog count := rfl

theorem answers_add (count more : Nat) :
    x.answers catalog (count + more) = (x.answers catalog count).answers catalog more := by
  rw [answers, answers, answers, run, run, run, ← List.foldl_append, List.replicate_append_replicate]

theorem answers_of_quiet (h : x.traffic.underway.awaited = []) (count : Nat) :
    x.answers catalog count = x := by
  induction count with
  | zero => rfl
  | succ count ih =>
    have hnone : x.traffic.underway.awaited[0]? = none := by rw [h]; rfl
    rw [answers_succ, handle_answer_of_none hnone, ih]

/-- However many answers it takes until nothing waits, what they leave is the same. -/
theorem answers_unique {count count' : Nat}
    (h : (x.answers catalog count).traffic.underway.awaited = [])
    (h' : (x.answers catalog count').traffic.underway.awaited = []) :
    x.answers catalog count = x.answers catalog count' := by
  rcases Nat.le_total count count' with hle | hle
  · obtain ⟨more, rfl⟩ := Nat.exists_eq_add_of_le hle
    rw [answers_add, answers_of_quiet h]
  · obtain ⟨more, rfl⟩ := Nat.exists_eq_add_of_le hle
    rw [answers_add, answers_of_quiet h']

/-- What some number of answers comes to. -/
def Reaches (catalog : Catalog) (x y : Exchange) : Prop := ∃ count, x.answers catalog count = y

theorem reaches_answers (count : Nat) : Reaches catalog x (x.answers catalog count) := ⟨count, rfl⟩

theorem reaches_handle (x : Exchange) : Reaches catalog x (x.handle catalog (.answer 0)) := ⟨1, rfl⟩

theorem Reaches.trans {y z : Exchange} (h : Reaches catalog x y) (h' : Reaches catalog y z) :
    Reaches catalog x z := by
  obtain ⟨count, rfl⟩ := h
  obtain ⟨more, rfl⟩ := h'
  exact ⟨count + more, answers_add count more⟩

end Exchange

/-! ## One answer -/

/-- A backend that acknowledges changes and does not fail, its lines of the product, and the calls that
wait for it. -/
structure Serving (product : Int) (x : Exchange) (stock : List StoredLine)
    (awaited : List (Awaited Point)) : Prop where
  stocked : x.memory.WellStocked
  acknowledges : x.memory.cartReply = .acknowledgement
  reliable : x.memory.failures = []
  stock : x.memory.cart.filter (·.product == product) = stock
  awaited : x.traffic.underway.awaited = awaited

/-- No line has the id of the line. -/
def Gone (l : StoredLine) (x : Exchange) : Prop := ∀ y ∈ x.memory.cart, y.id ≠ l.id

variable {catalog : Catalog} {x : Exchange} {product : Int} {stock extra : List StoredLine}
variable {l e : StoredLine} {a : Awaited Point} {rest : List (Awaited Point)} {shown : Line}

/-- The first of lines with distinct ids replaced or dropped by its id. -/
theorem settleBy_head (h : ((l :: extra).map StoredLine.id).Nodup) (line : Option StoredLine) :
    settleBy StoredLine.id l.id line (l :: extra) = line.toList ++ extra := by
  obtain ⟨hl, _⟩ := List.nodup_cons.mp h
  have hkeep : (extra.filter fun y => y.id != l.id) = extra :=
    filter_ne_eq_self fun y hy he => hl (he ▸ List.mem_map_of_mem hy)
  rw [settleBy, if_pos rfl, hkeep]

theorem settleBy_second (h : ((l :: e :: extra).map StoredLine.id).Nodup) :
    settleBy StoredLine.id e.id none (l :: e :: extra) = l :: extra := by
  obtain ⟨hl, hrest⟩ := List.nodup_cons.mp h
  have hne : l.id ≠ e.id := fun he => hl (he ▸ List.mem_cons_self)
  rw [settleBy, if_neg hne, settleBy_head hrest]
  rfl

/-- What a deletion is answered with. -/
def deletedReply : Payload := Memory.note "Item removed from cart successfully"

theorem settle_deletedReply (ctx : Context) (c : Cart) (hid : shown.id ≠ none) :
    settle ctx c product (some shown) deletedReply =
      (Shopfront.Step.finish (settleOn c product (some shown)) (.done true)).after
        (settledComplaint ctx c product deletedReply) := by
  have hline : settledLine ctx c product (some shown) deletedReply = some shown := by
    rw [settledLine, deletedReply, Memory.report?_note]
    simp [acknowledge]
  rw [settle_of_not_snapshot rfl hline, if_neg]
  simpa using hid

namespace Serving

-- Sums begin at the literal zero, whatever is imported beside this module.
attribute [local instance (high)] Zero.ofOfNat0

variable (catalog)

theorem mem (h : Serving product x stock rest) (hl : l ∈ stock) :
    l ∈ x.memory.cart ∧ l.product = product := by
  rw [← h.stock] at hl
  obtain ⟨hl, hp⟩ := List.mem_filter.mp hl
  exact ⟨hl, by simpa using hp⟩

theorem nodup_ids (h : Serving product x stock rest) : (stock.map StoredLine.id).Nodup := by
  rw [← h.stock]
  exact h.stocked.distinct.sublist (List.filter_sublist.map _)

/-- What an answer makes of the operation, and what waits then. -/
theorem handle_answer (h : Serving product x stock (a :: rest)) {m : Memory} {reply : Reply}
    (hact : x.memory.act a.call = (m, reply)) :
    let s := resume ⟨true, catalog⟩ x.traffic.cart a.point reply
    let y := x.handle catalog (.answer 0)
    y.memory = m ∧ y.traffic.cart = s.state ∧
      y.traffic.underway.awaited = rest ++ (Underway.callOf? s.progress).toList := by
  obtain ⟨hmemory, hcart, hawaited, _⟩ := Exchange.handle_first catalog h.awaited h.reliable hact
  exact ⟨hmemory, hcart, hawaited⟩

/-- The quantity is put on the first line, and the further lines are next. -/
theorem put (h : Serving product x (l :: e :: extra) (putting product l shown :: rest))
    (hq : 1 ≤ shown.quantity)
    (hfold : foldedIds product x.traffic.cart.folded = (e :: extra).map fun y => .number y.id) :
    let y := x.handle catalog (.answer 0)
    Serving product y ({ l with quantity := shown.quantity } :: e :: extra)
        (rest ++ [deleting product e extra shown]) ∧
      y.traffic.cart = x.traffic.cart := by
  intro y
  obtain ⟨hl, hp⟩ := h.mem List.mem_cons_self
  have hact := h.stocked.act_update hl hq h.acknowledges
  obtain ⟨hm, hcart, hawaited⟩ := h.handle_answer catalog hact
  simp only [putting, resume, if_true, hfold, List.map_cons, foldNext] at hcart hawaited
  refine ⟨⟨?_, ?_, ?_, ?_, hawaited⟩, hcart⟩
  · rw [hm]
    refine h.stocked.settle rfl (Nat.le_refl _) fun x hx => ?_
    cases hx
    exact ⟨rfl, h.stocked.fresh l hl, hq⟩
  · rw [hm]
    exact h.acknowledges
  · rw [hm]
    exact h.reliable
  · rw [hm, h.stocked.filter_keepLine hl hp fun x hx => ?_, h.stock, settleBy_head h.nodup_ids]
    · rfl
    · cases hx
      exact hp

/-- The first of the further lines is deleted. -/
theorem delete (h : Serving product x (l :: e :: extra) (deleting product e stock shown :: rest)) :
    let s := foldNext ⟨true, catalog⟩ x.traffic.cart product (some shown) deletedReply
      (stock.map fun y => .number y.id)
    let y := x.handle catalog (.answer 0)
    Serving product y (l :: extra) (rest ++ (Underway.callOf? s.progress).toList) ∧ Gone e y ∧
      y.traffic.cart = s.state := by
  intro s y
  obtain ⟨he, hp⟩ := h.mem (List.mem_cons_of_mem _ List.mem_cons_self)
  have hact := h.stocked.act_remove he h.acknowledges
  obtain ⟨hm, hcart, hawaited⟩ := h.handle_answer catalog hact
  have hnone : ∀ {P : StoredLine → Prop}, ∀ y ∈ (none : Option StoredLine), P y :=
    fun _ hy => nomatch hy
  refine ⟨⟨?_, ?_, ?_, ?_, hawaited⟩, fun y hy => ?_, hcart⟩
  · rw [hm]
    exact h.stocked.settle rfl (Nat.le_refl _) hnone
  · rw [hm]
    exact h.acknowledges
  · rw [hm]
    exact h.reliable
  · rw [hm, h.stocked.filter_keepLine he hp hnone, h.stock, settleBy_second h.nodup_ids]
  · rw [hm, Memory.keepLine, settleBy_none] at hy
    simpa using (List.mem_filter.mp hy).2

/-- The increase goes on to the next of the further lines. -/
theorem delete_next {e' : StoredLine} {more : List StoredLine}
    (h : Serving product x (l :: e :: extra) (deleting product e (e' :: more) shown :: rest)) :
    let y := x.handle catalog (.answer 0)
    Serving product y (l :: extra) (rest ++ [deleting product e' more shown]) ∧ Gone e y := by
  obtain ⟨hserving, hgone, _⟩ := h.delete catalog
  exact ⟨hserving, hgone⟩

/-- The increase is settled on what it has shown. -/
theorem delete_last (h : Serving product x (l :: e :: extra) (deleting product e [] shown :: rest))
    (hp : shown.product = product) (hid : shown.id ≠ none) :
    let y := x.handle catalog (.answer 0)
    Serving product y (l :: extra) rest ∧ Gone e y ∧
      lineOf? product y.traffic.cart.lines = some shown := by
  obtain ⟨hserving, hgone, hcart⟩ := h.delete catalog
  simp only [List.map_nil, foldNext, settle_deletedReply _ _ hid] at hserving hcart
  have hserving : Serving product _ (l :: extra) (rest ++ []) := hserving
  rw [List.append_nil] at hserving
  refine ⟨hserving, hgone, ?_⟩
  have hfits : ∀ y ∈ some shown, y.product = product := fun y hy => Option.some.inj hy ▸ hp
  rw [hcart]
  show lineOf? product (withLine product (some shown) _) = _
  rw [lineOf?_withLine hfits, if_pos rfl]

/-- A line that is gone cannot be deleted again. -/
theorem miss (h : Serving product x stock (deleting product e extra shown :: rest))
    (hgone : Gone e x) :
    let y := x.handle catalog (.answer 0)
    Serving product y stock (rest ++ [reloading]) ∧ y.memory = x.memory := by
  intro y
  have hact := Memory.act_remove_of_not_mem hgone
  obtain ⟨hm, _, hawaited⟩ := h.handle_answer catalog hact
  refine ⟨⟨?_, ?_, ?_, ?_, hawaited⟩, hm⟩
  · rw [hm]
    exact h.stocked
  · rw [hm]
    exact h.acknowledges
  · rw [hm]
    exact h.reliable
  · rw [hm]
    exact h.stock

theorem load (h : Serving product x stock (reloading :: rest)) :
    let y := x.handle catalog (.answer 0)
    Serving product y stock rest ∧ y.memory = x.memory ∧ Shows y.traffic.cart x.memory.rows := by
  intro y
  have hact : x.memory.act .getCart = (x.memory, .value x.memory.cartPayload) := rfl
  obtain ⟨hm, hcart, hawaited⟩ := h.handle_answer catalog hact
  refine ⟨⟨?_, ?_, ?_, ?_, ?_⟩, hm, ?_⟩
  · rw [hm]
    exact h.stocked
  · rw [hm]
    exact h.acknowledges
  · rw [hm]
    exact h.reliable
  · rw [hm]
    exact h.stock
  · rw [hawaited]
    exact List.append_nil rest
  · obtain ⟨hl, hc, hf⟩ := shows_loaded h.stocked ⟨true, catalog⟩ x.traffic.cart
    rw [hcart]
    exact ⟨hl, hc, hf⟩

/-! ## Rounds of answers -/

/-- Every increase puts its quantity; the last one's stays. -/
theorem puts {waiting : List Line}
    (h : Serving product x (l :: e :: extra) (waiting.map (putting product l) ++ rest))
    (hq : ∀ shown ∈ waiting, 1 ≤ shown.quantity)
    (hfold : foldedIds product x.traffic.cart.folded = (e :: extra).map fun y => .number y.id) :
    Serving product (x.answers catalog waiting.length)
      ({ l with quantity := (waiting.map (·.quantity)).getLastD l.quantity } :: e :: extra)
      (rest ++ waiting.map (deleting product e extra)) := by
  induction waiting generalizing x l rest with
  | nil =>
    simp only [List.map_nil, List.append_nil]
    exact h
  | cons shown waiting ih =>
    obtain ⟨hshown, hq⟩ := List.forall_mem_cons.mp hq
    rw [List.map_cons, List.cons_append] at h
    obtain ⟨hserving, hcart⟩ := h.put catalog hshown hfold
    rw [List.append_assoc] at hserving
    have hrest := ih (l := { l with quantity := shown.quantity }) hserving hq (by rw [hcart, hfold])
    rw [List.append_assoc] at hrest
    rw [List.map_cons, List.getLastD_cons]
    exact hrest

/-- Deletions of a line that is gone are all refused. -/
theorem misses {waiting : List Line}
    (h : Serving product x stock (waiting.map (deleting product e extra) ++ rest))
    (hgone : Gone e x) :
    Serving product (x.answers catalog waiting.length) stock
      (rest ++ List.replicate waiting.length reloading) := by
  induction waiting generalizing x rest with
  | nil =>
    rw [List.length_nil, List.replicate_zero, List.append_nil]
    exact h
  | cons shown waiting ih =>
    rw [List.map_cons, List.cons_append] at h
    obtain ⟨hserving, hm⟩ := h.miss catalog hgone
    rw [List.append_assoc] at hserving
    have hgone : Gone e (x.handle catalog (.answer 0)) := by
      rw [Gone, hm]
      exact hgone
    have hrest := ih hserving hgone
    rw [List.append_assoc] at hrest
    exact hrest

/-- When the cart has been loaded, it shows what the backend keeps. -/
theorem loads {count : Nat}
    (h : Serving product x stock (List.replicate (count + 1) reloading ++ rest)) :
    let y := x.answers catalog (count + 1)
    Serving product y stock rest ∧ Shows y.traffic.cart y.memory.rows := by
  induction count generalizing x with
  | zero =>
    obtain ⟨hserving, hm, hshows⟩ := h.load catalog
    rw [← hm] at hshows
    exact ⟨hserving, hshows⟩
  | succ count ih =>
    obtain ⟨hserving, _⟩ := h.load catalog
    exact ih hserving

/-- One increase deletes all further lines that are left, and is settled on what it has shown. -/
theorem deletes (h : Serving product x (l :: e :: extra) [deleting product e extra shown])
    (hp : shown.product = product) (hid : shown.id ≠ none) :
    let y := x.answers catalog (extra.length + 1)
    Serving product y [l] [] ∧ lineOf? product y.traffic.cart.lines = some shown := by
  induction extra generalizing x e with
  | nil =>
    obtain ⟨hserving, _, hline⟩ := h.delete_last catalog hp hid
    exact ⟨hserving, hline⟩
  | cons e' extra ih =>
    obtain ⟨hserving, _⟩ := h.delete_next catalog
    exact ih hserving

/-! ## All rounds -/

theorem total (h : Serving product x stock rest) :
    Row.total product x.memory.rows = (stock.map (·.quantity)).sum := by
  rw [Row.total, Memory.rows, ofProduct_map_row, h.stock, List.map_map]
  rfl

/-- A cart that shows the one line of a product. -/
theorem quantity_of_shows (h : Serving product x [l] rest)
    (hs : Shows x.traffic.cart x.memory.rows) :
    (Cart.lineOf? product x.traffic.cart.lines).map (·.quantity) = some l.quantity := by
  rcases hs.lineOf? product with ⟨_, hnone⟩ | ⟨line, l', hline, _, hrow⟩
  · rw [← List.head?_filter, h.stock] at hnone
    cases hnone
  · obtain ⟨_, _, hq⟩ := Row.mk.inj hrow
    rw [hline, Option.map_some, hq]
    exact congrArg some (h.total.trans (by simp))

/-- All increases have sent their quantities. The first deletes the further lines; the others are
refused and load the cart, which happens after the first deletion and before the third. -/
theorem rounds {first second : Line} {waiting : List Line} {last : Int}
    (h : Serving product x (l :: e :: extra)
      ((first :: second :: waiting).map (putting product l)))
    (hq : ∀ shown ∈ first :: second :: waiting, 1 ≤ shown.quantity)
    (hfold : foldedIds product x.traffic.cart.folded = (e :: extra).map fun y => .number y.id)
    (hp : first.product = product) (hid : first.id ≠ none)
    (hlast : ((first :: second :: waiting).map (·.quantity)).getLastD l.quantity = last) :
    ∃ y, Exchange.Reaches catalog x y ∧ Serving product y [{ l with quantity := last }] [] ∧
      (Cart.lineOf? product y.traffic.cart.lines).map (·.quantity) =
        some (if extra.length ≤ 1 then last else first.quantity) := by
  subst hlast
  rw [← List.append_nil (List.map (putting product l) _)] at h
  have hput := puts catalog h hq hfold
  rw [List.nil_append, List.map_cons] at hput
  have hreach : Exchange.Reaches catalog x
      ((x.answers catalog (first :: second :: waiting).length).handle catalog (.answer 0)) :=
    (Exchange.reaches_answers _).trans (Exchange.reaches_handle _)
  cases extra with
  | nil =>
    obtain ⟨hfirst, hgone, _⟩ := hput.delete_last catalog hp hid
    rw [← List.append_nil (List.map (deleting product e []) _)] at hfirst
    have hmissed := misses catalog hfirst hgone
    rw [List.nil_append, ← List.append_nil (List.replicate ..)] at hmissed
    obtain ⟨hend, hshows⟩ := hmissed.loads catalog
    refine ⟨_, (hreach.trans (Exchange.reaches_answers _)).trans (Exchange.reaches_answers _), hend,
      ?_⟩
    exact hend.quantity_of_shows hshows
  | cons e' extra =>
    obtain ⟨hfirst, hgone⟩ := hput.delete_next catalog
    have hmissed := misses catalog hfirst hgone
    rw [List.singleton_append] at hmissed
    have hreach := (hreach.trans (Exchange.reaches_answers (second :: waiting).length)).trans
      (Exchange.reaches_handle _)
    cases extra with
    | nil =>
      obtain ⟨hlast, _, _⟩ := hmissed.delete_last catalog hp hid
      rw [← List.append_nil (List.replicate ..)] at hlast
      obtain ⟨hend, hshows⟩ := hlast.loads catalog
      refine ⟨_, hreach.trans (Exchange.reaches_answers _), hend, ?_⟩
      exact hend.quantity_of_shows hshows
    | cons e'' extra =>
      obtain ⟨hnext, _⟩ := hmissed.delete_next catalog
      obtain ⟨hloaded, _⟩ := hnext.loads catalog
      obtain ⟨hend, hline⟩ := hloaded.deletes catalog hp hid
      refine ⟨_, (hreach.trans (Exchange.reaches_answers _)).trans (Exchange.reaches_answers _), hend,
        ?_⟩
      have hlong : ¬(e' :: e'' :: extra).length ≤ 1 := by simp
      rw [if_neg hlong]
      exact congrArg (Option.map (·.quantity)) hline

end Serving

/-! ## Increases begin -/

theorem exists_eq_cons_cons {α : Type} {xs : List α} (h : 2 ≤ xs.length) :
    ∃ a b rest, xs = a :: b :: rest := by
  match xs, h with
  | a :: b :: rest, _ => exact ⟨a, b, rest, rfl⟩

/-- The lines that so many increases show, one after another. -/
def raised (line : Line) : Nat → List Line
  | 0 => []
  | count + 1 =>
    let more := { line with quantity := line.quantity + 1 }
    more :: raised more count

variable {line : Line}

theorem raised_last (line : Line) (count : Nat) :
    ((raised line count).map (·.quantity)).getLastD line.quantity = line.quantity + count := by
  induction count generalizing line with
  | zero => simp [raised]
  | succ count ih =>
    rw [raised, List.map_cons, List.getLastD_cons, ih]
    push_cast
    omega

theorem mem_raised {count : Nat} (h : shown ∈ raised line count) :
    shown.id = line.id ∧ shown.product = line.product ∧ line.quantity ≤ shown.quantity := by
  induction count generalizing line with
  | zero => cases h
  | succ count ih =>
    rcases List.mem_cons.mp h with rfl | h
    · exact ⟨rfl, rfl, Int.le_add_one (Int.le_refl _)⟩
    · obtain ⟨hid, hp, hq⟩ := ih h
      refine ⟨hid, hp, ?_⟩
      have hq : line.quantity + 1 ≤ shown.quantity := hq
      omega

variable (catalog)

/-- One more increase of a product with further lines shows its quantity and sends it. -/
theorem Serving.begin_increase (h : Serving product x (l :: e :: extra) rest)
    (hline : lineOf? product x.traffic.cart.lines = some line)
    (hid : line.id = some (.number l.id))
    (hfold : foldedIds product x.traffic.cart.folded = (e :: extra).map fun y => .number y.id)
    {p : Payload} (hp : p.id? = some product) :
    let more := { line with quantity := line.quantity + 1 }
    let y := x.handle catalog (.begin (.increase p))
    Serving product y (l :: e :: extra) (rest ++ [putting product l more]) ∧
      lineOf? product y.traffic.cart.lines = some more ∧
      foldedIds product y.traffic.cart.folded = (e :: extra).map fun y => .number y.id := by
  intro more y
  have hbegin : begin ⟨true, catalog⟩ x.traffic.cart (.increase p) =
      send x.traffic.cart product (some more) (.updateCartLine (.int l.id) more.quantity) := by
    simp only [begin, gated, gate, hp, if_true, increase, hline, hid, more]
    rfl
  have hy : y = { x with traffic := x.traffic.step (send x.traffic.cart product (some more)
      (.updateCartLine (.int l.id) more.quantity)) } := by
    rw [← hbegin]
    rfl
  have hfits : ∀ z ∈ some more, z.product = product := by
    intro z hz
    cases hz
    show line.product = product
    exact product_of_lineOf? hline
  rw [hy]
  refine ⟨⟨h.stocked, h.acknowledges, h.reliable, h.stock, ?_⟩, ?_, hfold⟩
  · show (x.traffic.step _).underway.awaited = _
    rw [Traffic.awaited_step, h.awaited, send, hfold]
    rfl
  · show lineOf? product (withLine product (some more) _) = _
    rw [lineOf?_withLine hfits, if_pos rfl]

theorem Serving.begin_increases (h : Serving product x (l :: e :: extra) rest)
    (hline : lineOf? product x.traffic.cart.lines = some line)
    (hid : line.id = some (.number l.id))
    (hfold : foldedIds product x.traffic.cart.folded = (e :: extra).map fun y => .number y.id)
    {payloads : List Payload} (hp : ∀ p ∈ payloads, p.id? = some product) :
    let y := x.run catalog (payloads.map fun p => .begin (.increase p))
    Serving product y (l :: e :: extra)
        (rest ++ (raised line payloads.length).map (putting product l)) ∧
      foldedIds product y.traffic.cart.folded = (e :: extra).map fun y => .number y.id := by
  induction payloads generalizing x line rest with
  | nil =>
    simp only [List.map_nil, List.length_nil, raised, List.append_nil]
    exact ⟨h, hfold⟩
  | cons p payloads ih =>
    obtain ⟨hp, hps⟩ := List.forall_mem_cons.mp hp
    obtain ⟨hserving, hline', hfold'⟩ := h.begin_increase catalog hline hid hfold hp
    have hrest := ih hserving hline' hid hfold' hps
    rw [List.append_assoc] at hrest
    exact hrest

namespace Exchange

/-- **Overlapping increases of a product with several lines.** A cart is loaded from a backend that
acknowledges changes, does not fail, and keeps at least two lines of a product. At least two increases
of the product begin before the first answer, and the calls are answered in their order. Then a time
comes when nothing waits. The backend then keeps of the product what it kept before and one more for
each increase. The cart shows the same if there were two or three lines. If there were more, it shows
what the first increase has shown: its last deletion is answered last. -/
theorem shown_after_increases (catalog : Catalog) (cart : Cart) {memory : Memory}
    (hstocked : memory.WellStocked) (hack : memory.cartReply = .acknowledgement)
    (hreliable : memory.failures = []) {product : Int}
    (hmany : 2 ≤ (memory.cart.filter (·.product == product)).length)
    {payloads : List Payload} (hoverlap : 2 ≤ payloads.length)
    (hp : ∀ p ∈ payloads, p.id? = some product) :
    let begun := (opened catalog cart memory).run catalog
      (payloads.map fun p => .begin (.increase p))
    let kept := Row.total product memory.rows
    (∃ count, (begun.answers catalog count).traffic.underway.awaited = []) ∧
      ∀ count, let y := begun.answers catalog count
        y.traffic.underway.awaited = [] →
          Row.total product y.memory.rows = kept + payloads.length ∧
          (lineOf? product y.traffic.cart.lines).map (·.quantity) =
            some (if (memory.cart.filter (·.product == product)).length ≤ 3
              then kept + payloads.length else kept + 1) := by
  intro begun kept
  obtain ⟨c, hopened⟩ := opened_eq catalog cart (m := memory) (by simp [hreliable])
  have hshows := shows_loaded hstocked ⟨true, catalog⟩ c
  obtain ⟨l, e, extra, hlines⟩ := exists_eq_cons_cons hmany
  have hfirst : memory.cart.find? (·.product == product) = some l := by
    rw [← List.head?_filter, hlines]
    rfl
  obtain ⟨line, hline, hrow⟩ : ∃ line,
      Cart.lineOf? product (loaded ⟨true, catalog⟩ c memory.cartPayload).lines = some line ∧
        line.row = ⟨some (.number l.id), product, kept⟩ := by
    rcases hshows.lineOf? product with ⟨_, hnone⟩ | ⟨line, l', hline, hl', hrow⟩
    · cases hfirst.symm.trans hnone
    · cases hfirst.symm.trans hl'
      exact ⟨line, hline, hrow⟩
  obtain ⟨hid, hproduct, hq⟩ := Row.mk.inj hrow
  have hopen : Serving product (opened catalog cart memory) (l :: e :: extra) [] := by
    rw [hopened]
    exact ⟨hstocked, hack, hreliable, hlines, rfl⟩
  have hfold : foldedIds product (opened catalog cart memory).traffic.cart.folded =
      (e :: extra).map fun y => .number y.id := by
    rw [hopened]
    show foldedIds product (loaded ⟨true, catalog⟩ c memory.cartPayload).folded = _
    rw [hshows.folded, Memory.rows, furtherIds_map_row, hlines]
    rfl
  have hfirstLine : Cart.lineOf? product (opened catalog cart memory).traffic.cart.lines =
      some line := by
    rw [hopened]
    exact hline
  obtain ⟨hbegun, hfolded⟩ := hopen.begin_increases catalog hfirstLine hid hfold hp
  obtain ⟨p, q, more, rfl⟩ := exists_eq_cons_cons hoverlap
  have hpos : 1 ≤ kept := total_pos hstocked.positive hfirst
  have hput : ∀ shown ∈ raised line (p :: q :: more).length, 1 ≤ shown.quantity := by
    intro shown hs
    obtain ⟨_, _, hle⟩ := mem_raised hs
    omega
  have hlast : ((raised line (p :: q :: more).length).map (·.quantity)).getLastD l.quantity =
      kept + (p :: q :: more).length := by
    rw [← hq]
    exact raised_last line (p :: q :: more).length
  obtain ⟨y, ⟨count, hcount⟩, hend, hshown⟩ := hbegun.rounds catalog hput hfolded
    hproduct (by rw [hid]; exact Option.some_ne_none _) hlast
  have hquiet : (begun.answers catalog count).traffic.underway.awaited = [] := by
    rw [hcount]
    exact hend.awaited
  refine ⟨⟨count, hquiet⟩, ?_⟩
  intro count' y' hquiet'
  have hsame : y' = y := (answers_unique hquiet' hquiet).trans hcount
  have hlong : (memory.cart.filter (·.product == product)).length ≤ 3 ↔ extra.length ≤ 1 := by
    rw [hlines]
    simp only [List.length_cons]
    omega
  rw [hsame]
  refine ⟨?_, ?_⟩
  · rw [hend.total]
    exact Int.add_zero _
  · rw [hshown]
    simp only [hlong, hq]

/-- A backend with so many lines of product 7, one piece each. -/
def stockedWith (count : Nat) : Memory where
  products := []
  favourites := []
  cart := (List.range count).map fun i => ⟨i + 1, 7, 1⟩
  orders := .list []
  favouriteShape := .objects
  productShape := .list
  cartReply := .acknowledgement
  nextLine := count + 1
  failures := []

/-- With three lines and two increases the cart shows what the backend keeps. -/
theorem shown_after_increases_three_lines :
    let begun := (opened .empty .empty (stockedWith 3)).run .empty
      [.begin (.increase (.int 7)), .begin (.increase (.int 7))]
    (stockedWith 3).WellStocked ∧
      ∀ count, let y := begun.answers .empty count
        y.traffic.underway.awaited = [] → Row.total 7 y.memory.rows = 5 ∧
          (lineOf? 7 y.traffic.cart.lines).map (·.quantity) = some 5 := by
  intro begun
  have hstocked : (stockedWith 3).WellStocked :=
    ⟨by decide, by decide, by decide⟩
  have hp : ∀ p ∈ [Payload.int 7, .int 7], p.id? = some 7 := by simp [Payload.id?]
  have hmany : 2 ≤ ((stockedWith 3).cart.filter (·.product == 7)).length := by decide
  have hoverlap : 2 ≤ [Payload.int 7, .int 7].length := by decide
  obtain ⟨_, hshown⟩ := shown_after_increases .empty .empty hstocked rfl rfl hmany hoverlap hp
  exact ⟨hstocked, hshown⟩

/-- With four lines and two increases the cart ends with one piece less than the backend. -/
theorem shown_after_increases_four_lines :
    let begun := (opened .empty .empty (stockedWith 4)).run .empty
      [.begin (.increase (.int 7)), .begin (.increase (.int 7))]
    let y := begun.answers .empty 7
    (stockedWith 4).WellStocked ∧ y.traffic.underway.awaited = [] ∧
      Row.total 7 y.memory.rows = 6 ∧
      (lineOf? 7 y.traffic.cart.lines).map (·.quantity) = some 5 := by
  intro begun y
  refine ⟨⟨by decide, by decide, by decide⟩, ?_, ?_, ?_⟩
  · exact List.isEmpty_iff.mp (by decide +kernel)
  · decide +kernel
  · decide +kernel

end Exchange

end Cart

end Shopfront
