import Mathlib.Algebra.Ring.Nat
import Shopfront.Proofs.Cart.Agreement
import Shopfront.Proofs.Cart.Rounds

/-! Increases of any products that overlap, on a backend that keeps at most one line a product and
answers in the order of the calls. An increase of a product whose line has an id puts a quantity
that counts the increases before it; of any other product it adds one. So what will be kept in the
end can be read off the calls that wait, and an answer leaves that as it is. Main statement: no
increase is lost (`increases_kept`). -/

namespace Shopfront

theorem Memory.total_of_single {m : Memory} (h : m.Single) (product : Int) :
    Cart.Row.total product m.rows =
      ((m.cart.find? (·.product == product)).map (·.quantity)).getD 0 := by
  have hfirst : Cart.Row.first? product m.rows =
      (m.cart.find? (·.product == product)).map StoredLine.row := List.find?_map ..
  rw [Cart.Row.total_of_nodup (single_iff.mp h), hfirst, Option.map_map]
  rfl

namespace Cart

/-! ## Quantities -/

/-- How much of a product the lines show. -/
def quantityOf (product : Int) (lines : List Line) : Int :=
  ((lineOf? product lines).map (·.quantity)).getD 0

/-- What is kept of a product when a call has been done. -/
def keptAfter (product kept : Int) : Awaited Point → Int
  | ⟨.addToCart p quantity, _⟩ => if product = p then kept + quantity else kept
  | ⟨.updateCartLine _ quantity, .sending p _ _⟩ => if product = p then quantity else kept
  | _ => kept

/-- What is kept of a product when all calls that wait have been done. -/
def keptInEnd (product kept : Int) (awaited : List (Awaited Point)) : Int :=
  awaited.foldl (keptAfter product) kept

/-! ## Calls of increases -/

/-- The backend keeps a line of the product with the id. -/
def Stored (m : Memory) (id : Nat) (product : Int) : Prop :=
  ∃ l ∈ m.cart, l.id = id ∧ l.product = product

/-- What an increase waits for: that one is added, that the quantity of a line is put, or that the
cart is loaded when the change has been settled. -/
inductive Raises (m : Memory) : Awaited Point → Prop
  | add {product} {line : Line} : line.product = product → line.id = none →
      Raises m ⟨.addToCart product 1, .sending product (some line) false⟩
  | put {product} {id : Nat} {line : Line} : line.product = product →
      line.id = some (.number id) → 1 ≤ line.quantity → Stored m id product →
      Raises m ⟨.updateCartLine (.int id) line.quantity, .sending product (some line) false⟩
  | load : Raises m ⟨.getCart, .loading .succeed⟩

variable {m m' : Memory} {a : Awaited Point} {p : Payload} {ctx : Context} {c : Cart}

theorem Raises.onCart (h : Raises m a) : Memory.OnCart a.call := by
  cases h with
  | add _ _ => exact .add _ (Int.le_refl 1)
  | put _ _ _ _ => exact .update _ _
  | load => exact .list

/-- Without failures in store an increase is not refused. -/
theorem Raises.act (h : Raises m a) (hw : m.WellStocked) : ∃ p, (m.act a.call).2 = .value p := by
  cases h with
  | @add product line _ _ =>
    simp only [Memory.act, Memory.addToCart]
    split
    · obtain ⟨p, hp, _⟩ := Memory.changeReply_acknowledges _ _ _
      exact ⟨p, hp⟩
    · obtain ⟨p, hp, _⟩ := Memory.changeReply_acknowledges _ _ _
      exact ⟨p, hp⟩
  | put _ _ hq hstored =>
    obtain ⟨l, hl, rfl, _⟩ := hstored
    simp only [Memory.act, Memory.updateCartLine, if_neg (Int.not_lt.mpr hq),
      hw.lineNamed?_of_mem hl]
    obtain ⟨p, hp, _⟩ := Memory.changeReply_acknowledges _ _ _
    exact ⟨p, hp⟩
  | load => exact ⟨_, rfl⟩

/-- A line that gives way to one with its id and its product is still stored as it was. -/
theorem stored_keepLine (hw : m.WellStocked) {l line : StoredLine} (hl : l ∈ m.cart)
    (hid : line.id = l.id) (hproduct : line.product = l.product) {id : Nat} {product : Int}
    (h : Stored m id product) : Stored (m.keepLine l.id (some line)) id product := by
  obtain ⟨x, hx, rfl, rfl⟩ := h
  rw [← hw.map_eq_keepLine hl]
  refine ⟨_, List.mem_map_of_mem hx, ?_⟩
  split
  · next he =>
    cases hw.eq_of_id hx hl he
    exact ⟨hid, hproduct⟩
  · exact ⟨rfl, rfl⟩

theorem Raises.stored (h : Raises m a) (hw : m.WellStocked)
    (hs : Memory.Served m a.call m' (.value p)) {id : Nat} {product : Int}
    (hstored : Stored m id product) : Stored m' id product := by
  cases h with
  | add _ _ =>
    cases hs with
    | raised hl hline _ =>
      exact stored_keepLine hw (List.mem_of_find?_eq_some hl) (by rw [hline]) (by rw [hline])
        hstored
    | added _ _ =>
      obtain ⟨x, hx, hid⟩ := hstored
      exact ⟨x, List.mem_append_left _ hx, hid⟩
  | put _ _ _ _ =>
    cases hs with
    | updated hl _ _ hline _ =>
      exact stored_keepLine hw hl (by rw [hline]) (by rw [hline]) hstored
  | load =>
    cases hs with
    | listed => exact hstored

theorem Raises.mono (h : Raises m a)
    (hm : ∀ {id product}, Stored m id product → Stored m' id product) : Raises m' a := by
  cases h with
  | add hp hid => exact .add hp hid
  | put hp hid hq hstored => exact .put hp hid hq (hm hstored)
  | load => exact .load

/-- A call that is done brings about what was to be read off it. -/
theorem Raises.total (h : Raises m a) (hw : m.WellStocked) (hone : m.Single)
    (hs : Memory.Served m a.call m' (.value p)) (product : Int) :
    Row.total product m'.rows = keptAfter product (Row.total product m.rows) a := by
  have only : ∀ {l}, l ∈ m.cart → ∀ l' ∈ m.cart, l'.product = l.product → l' = l :=
    fun hl l' hl' he => List.inj_on_of_nodup_map hone hl' hl he
  have put : ∀ {l line : StoredLine}, l ∈ m.cart → line.product = l.product →
      Row.total product (m.keepLine l.id (some line)).rows =
        if product = l.product then line.quantity else Row.total product m.rows := by
    intro l line hl hp
    rw [hw.rows_keepLine hl (only hl), Row.total_settleBy (StoredLine.product_row fun x hx => ?_)]
    · rfl
    · cases hx
      exact hp
  cases h with
  | @add added _ _ _ =>
    cases hs with
    | @raised _ _ l _ _ hl hline _ =>
      have hp : l.product = added := by simpa using List.find?_some hl
      have hkept : Row.total added m.rows = l.quantity := by
        rw [Memory.total_of_single hone, hl]
        rfl
      rw [put (List.mem_of_find?_eq_some hl) (by rw [hline]), hp, hline, keptAfter]
      split
      · next he => rw [he, hkept]
      · rfl
    | added hnew _ =>
      have hkept : Row.total added m.rows = 0 := by rw [Memory.total_of_single hone, hnew]; rfl
      rw [Memory.rows_appendLine hnew, Row.total_settleBy fun _ hx => Option.some.inj hx ▸ rfl,
        keptAfter]
      split
      · next he =>
        rw [he, hkept]
        rfl
      · rfl
  | @put raised _ _ _ _ _ hstored =>
    cases hs with
    | @updated l _ _ _ _ hl hname _ hline _ =>
      have hp : l.product = raised := by
        obtain ⟨x, hx, hid, hp⟩ := hstored
        have hid' : x.id = l.id := by
          have := Payload.int.inj hname
          omega
        rw [← hw.eq_of_id hx hl hid', hp]
      rw [put hl (by rw [hline]), hp, hline, keptAfter]
  | load =>
    cases hs with
    | listed => rfl

/-! ## Increases that begin -/

/-- A line that can be increased. If it has an id, the backend keeps a line of the product with
it. -/
structure Line.Raisable (m : Memory) (l : Line) : Prop where
  positive : 1 ≤ l.quantity
  stored : ∀ ref, l.id = some ref → ∃ id : Nat, ref = .number id ∧ Stored m id l.product

/-- Increases have begun and none has been answered: the cart shows what will be kept in the end. -/
structure Raising (m : Memory) (c : Cart) (awaited : List (Awaited Point)) : Prop where
  lines : ∀ l ∈ c.lines, l.Raisable m
  waiting : ∀ a ∈ awaited, Raises m a
  shown : ∀ product,
    quantityOf product c.lines = keptInEnd product (Row.total product m.rows) awaited
  unfolded : ∀ product, foldedIds product c.folded = []

variable {awaited : List (Awaited Point)} {product : Int} {line : Line} {call : Call}

theorem quantityOf_withLine (hp : line.product = product) (q : Int) (lines : List Line) :
    quantityOf q (withLine product (some line) lines) =
      if q = product then line.quantity else quantityOf q lines := by
  have hfits : ∀ l ∈ some line, l.product = product := fun l hl => Option.some.inj hl ▸ hp
  rw [quantityOf, lineOf?_withLine hfits]
  split <;> rfl

/-- One more of a product is shown and sent. -/
theorem Raising.send (h : Raising m c awaited) (hp : line.product = product)
    (hline : line.Raisable m) (hq : line.quantity = quantityOf product c.lines + 1)
    (hcall : Raises m ⟨call, .sending product (some line) false⟩)
    (hkept : ∀ q kept, (q = product → kept = quantityOf product c.lines) →
      keptAfter q kept ⟨call, .sending product (some line) false⟩ =
        if q = product then line.quantity else kept) :
    let s := Cart.send c product (some line) call
    ∃ a, s.progress = .calling a.call a.point ∧ Raising m s.state (awaited ++ [a]) ∧
      ∀ q, quantityOf q s.state.lines = quantityOf q c.lines + if q = product then 1 else 0 := by
  refine ⟨⟨call, .sending product (some line) false⟩, ?_, ⟨fun l hl => ?_, fun a ha => ?_,
    fun q => ?_, h.unfolded⟩, fun q => ?_⟩
  · simp only [Cart.send, Shopfront.Step.call, h.unfolded, List.isEmpty_nil, Bool.not_true]
  · have hl : l ∈ withLine product (some line) c.lines := hl
    rw [withLine_eq_settleBy] at hl
    rcases mem_settleBy hl with hl | hl
    · exact Option.some.inj hl ▸ hline
    · exact h.lines l hl
  · rcases List.mem_append.mp ha with ha | ha
    · exact h.waiting a ha
    · exact List.mem_singleton.mp ha ▸ hcall
  · rw [keptInEnd, List.foldl_concat, ← keptInEnd, ← h.shown,
      hkept q _ fun he => by rw [he]]
    exact quantityOf_withLine hp q c.lines
  · refine (quantityOf_withLine hp q c.lines).trans ?_
    split
    · next he => rw [he, hq]
    · exact (Int.add_zero _).symm

/-- One more increase of a product: what is shown and what will be kept grow by one. -/
theorem Raising.increase (h : Raising m c awaited) (ctx : Context) (product : Int) :
    let s := Cart.increase ctx c product
    ∃ a, s.progress = .calling a.call a.point ∧ Raising m s.state (awaited ++ [a]) ∧
      ∀ q, quantityOf q s.state.lines = quantityOf q c.lines + if q = product then 1 else 0 := by
  cases hl : lineOf? product c.lines with
  | none =>
    have hq : quantityOf product c.lines = 0 := by rw [quantityOf, hl]; rfl
    simp only [Cart.increase, hl]
    refine h.send rfl ⟨Int.le_refl 1, by rintro _ ⟨⟩⟩ (by rw [hq]; rfl) (.add rfl rfl)
      fun q kept he => ?_
    rw [keptAfter]
    split
    · next hqp => rw [he hqp, hq]; rfl
    · rfl
  | some line =>
    have hq : quantityOf product c.lines = line.quantity := by rw [quantityOf, hl]; rfl
    have hp := product_of_lineOf? hl
    obtain ⟨hpos, hstored⟩ := h.lines line (mem_of_lineOf? hl)
    have hmore : Line.Raisable m { line with quantity := line.quantity + 1 } :=
      ⟨Int.le_add_one hpos, hstored⟩
    obtain ⟨ref?, p, quantity, price⟩ := line
    cases ref? with
    | none =>
      simp only [Cart.increase, hl]
      refine h.send hp hmore (by rw [hq]) (.add hp rfl) fun q kept he => ?_
      rw [keptAfter]
      split
      · next hqp => rw [he hqp, hq]
      · rfl
    | some ref =>
      obtain ⟨id, rfl, hname⟩ := hstored ref rfl
      simp only [Cart.increase, hl]
      let more : Line := ⟨some (.number id), p, quantity + 1, price⟩
      have hput : Raises m ⟨.updateCartLine (.int id) more.quantity,
          .sending product (some more) false⟩ := .put hp rfl hmore.positive (hp ▸ hname)
      exact h.send hp hmore (by rw [hq]) hput fun q kept _ => rfl

/-! ## Answers -/

/-- An answered change is settled, or only the cart is still to be loaded; an answered load is the
end. -/
theorem Raises.resume (h : Raises m a) (hauth : ctx.authenticated = true) (p : Payload) :
    let s := Cart.resume ctx c a.point (.value p)
    s.progress = .finished (.done true) ∨
      s.progress = .calling .getCart (.loading .succeed) ∧ a.call ≠ .getCart := by
  have settled : ∀ {product shown} {s : Step}, Settles ctx c product shown p s →
      s.progress = .finished (.done true) ∨ s.progress = .calling .getCart (.loading .succeed) := by
    intro product shown s hs
    induction hs with
    | snapshot _ | line _ _ _ => exact .inl rfl
    | unnamed _ _ _ =>
      rw [reload, if_pos hauth]
      exact .inr rfl
    | after _ _ ih => exact ih
  cases h with
  | add _ _ =>
    exact (settled (settle_settles ..)).imp_right fun hcall => ⟨hcall, by rintro ⟨⟩⟩
  | put _ _ _ _ =>
    exact (settled (settle_settles ..)).imp_right fun hcall => ⟨hcall, by rintro ⟨⟩⟩
  | load => exact .inl rfl

/-- How many answers an operation takes at most. -/
def answersLeft : Awaited Point → Nat
  | ⟨.getCart, _⟩ => 1
  | _ => 2

theorem one_le_answersLeft (a : Awaited Point) : 1 ≤ answersLeft a := by
  unfold answersLeft
  split <;> decide

theorem answersLeft_of_ne (h : a.call ≠ .getCart) : answersLeft a = 2 := by
  unfold answersLeft
  split
  · exact absurd rfl h
  · rfl

namespace Exchange

/-- Increases are being answered: so much of each product will be kept in the end, and so many
increases have ended, each with success, or still wait. -/
structure Raised (kept : Int → Int) (endings : List (Except Fault Result)) (count : Nat)
    (x : Exchange) : Prop where
  agrees : x.Agrees
  reliable : x.memory.failures = []
  waiting : ∀ a ∈ x.traffic.underway.awaited, Raises x.memory a
  kept : ∀ product, keptInEnd product (Row.total product x.memory.rows)
    x.traffic.underway.awaited = kept product
  ended : ∃ done, x.traffic.underway.endings = endings ++ List.replicate done (.ok (.done true)) ∧
    done + x.traffic.underway.awaited.length = count

variable {kept : Int → Int} {endings : List (Except Fault Result)} {count : Nat} {x : Exchange}

/-- An answer has brought the operation of the first call to a progress: of the calls that wait the
rest still do, and they bring about what all did. -/
structure Advanced (kept : Int → Int) (x y : Exchange) (rest : List (Awaited Point))
    (progress : Progress Point Result) : Prop where
  awaited : y.traffic.underway.awaited = rest ++ (Underway.callOf? progress).toList
  endings : y.traffic.underway.endings =
    x.traffic.underway.endings ++ (Underway.endingOf? progress).toList
  reliable : y.memory.failures = []
  waiting : ∀ b ∈ rest, Raises y.memory b
  kept : ∀ product, keptInEnd product (Row.total product y.memory.rows) rest = kept product

theorem Raised.advance (h : x.Raised kept endings count) (catalog : Catalog) {rest}
    (hw : x.traffic.underway.awaited = a :: rest) :
    ∃ progress, Advanced kept x (x.handle catalog (.answer 0)) rest progress ∧
      (progress = .finished (.done true) ∨
        progress = .calling .getCart (.loading .succeed) ∧ a.call ≠ .getCart) := by
  obtain ⟨hraises, hrest⟩ := List.forall_mem_cons.mp (hw ▸ h.waiting)
  obtain ⟨p, hp⟩ := hraises.act h.agrees.stocked
  have hserved := hp ▸ h.agrees.stocked.act_served hraises.onCart
  have hact : x.memory.act a.call = ((x.memory.act a.call).1, .value p) := Prod.ext rfl hp
  obtain ⟨hmemory, _, hawaited, hendings⟩ := handle_first catalog hw h.reliable hact
  refine ⟨_, ⟨hawaited, hendings, ?_, fun b hb => ?_, fun product => ?_⟩, hraises.resume rfl p⟩
  · have hfailures := hserved.failures
    rw [h.reliable] at hfailures
    rw [hmemory]
    exact List.subset_nil.mp hfailures
  · rw [hmemory]
    exact (hrest b hb).mono (hraises.stored h.agrees.stocked hserved)
  · rw [← h.kept, hw, hmemory, hraises.total h.agrees.stocked h.agrees.single hserved]
    rfl

/-- An answer leaves what will be kept, and fewer answers are wanted after it. -/
theorem Raised.answer (h : x.Raised kept endings count) (catalog : Catalog) {rest}
    (hw : x.traffic.underway.awaited = a :: rest) :
    let y := x.handle catalog (.answer 0)
    y.Raised kept endings count ∧
      (y.traffic.underway.awaited.map answersLeft).sum <
        (x.traffic.underway.awaited.map answersLeft).sum := by
  intro y
  have hagrees : y.Agrees := h.agrees.answer 0
  obtain ⟨done, hended, hcount⟩ := h.ended
  rw [hw, List.length_cons] at hcount
  obtain ⟨progress, hy, rfl | ⟨rfl, hcall⟩⟩ := h.advance catalog hw
  · have hawaited : y.traffic.underway.awaited = rest := hy.awaited.trans (List.append_nil rest)
    refine ⟨⟨hagrees, hy.reliable, hawaited ▸ hy.waiting, fun product => hawaited ▸ hy.kept product,
      done + 1, ?_, ?_⟩, ?_⟩
    · rw [hy.endings, hended, List.append_assoc]
      exact congrArg _ List.replicate_succ'.symm
    · rw [hawaited]
      omega
    · rw [hawaited, hw, List.map_cons, List.sum_cons]
      have := one_le_answersLeft a
      omega
  · have hawaited : y.traffic.underway.awaited = rest ++ [⟨.getCart, .loading .succeed⟩] :=
      hy.awaited
    refine ⟨⟨hagrees, hy.reliable, ?_, fun product => ?_, done, ?_, ?_⟩, ?_⟩
    · rw [hawaited]
      refine List.forall_mem_append.mpr ⟨hy.waiting, fun b hb => ?_⟩
      exact List.mem_singleton.mp hb ▸ .load
    · rw [hawaited, keptInEnd, List.foldl_concat]
      exact hy.kept product
    · exact hy.endings.trans ((List.append_nil _).trans hended)
    · rw [hawaited, List.length_append, List.length_singleton]
      omega
    · rw [hawaited, hw, List.map_append, List.sum_append, List.map_cons (l := rest), List.sum_cons,
        answersLeft_of_ne hcall]
      show (rest.map answersLeft).sum + (1 + 0) < 2 + (rest.map answersLeft).sum
      omega

theorem Raised.answers (h : x.Raised kept endings count) (catalog : Catalog) (answered : Nat) :
    (x.answers catalog answered).Raised kept endings count := by
  induction answered generalizing x with
  | zero => exact h
  | succ answered ih =>
    rw [answers_succ]
    refine ih ?_
    cases hw : x.traffic.underway.awaited with
    | nil =>
      rw [handle_answer_of_none (by rw [hw]; rfl)]
      exact h
    | cons a rest => exact (h.answer catalog hw).1

theorem Raised.quiet (h : x.Raised kept endings count) (catalog : Catalog) :
    ∃ answered, (x.answers catalog answered).traffic.underway.awaited = [] := by
  induction hleft : (x.traffic.underway.awaited.map answersLeft).sum using Nat.strongRecOn
    generalizing x with
  | ind left ih =>
    cases hw : x.traffic.underway.awaited with
    | nil => exact ⟨0, hw⟩
    | cons a rest =>
      obtain ⟨hraised, hless⟩ := h.answer catalog hw
      obtain ⟨answered, hquiet⟩ := ih _ (hleft ▸ hless) hraised rfl
      exact ⟨answered + 1, hquiet⟩

/-! ## Whole runs -/

/-- Increases of these products have begun since, and none has been answered. -/
structure Begun (x : Exchange) (payloads : List Payload) (y : Exchange) : Prop where
  raising : Raising y.memory y.traffic.cart y.traffic.underway.awaited
  memory : y.memory = x.memory
  endings : y.traffic.underway.endings = x.traffic.underway.endings
  waiting : y.traffic.underway.awaited.length =
    x.traffic.underway.awaited.length + payloads.length
  shown : ∀ product, quantityOf product y.traffic.cart.lines =
    quantityOf product x.traffic.cart.lines + payloads.countP fun p => p.id? = some product

theorem begun_increases
    (h : Raising x.memory x.traffic.cart x.traffic.underway.awaited) (catalog : Catalog)
    {payloads : List Payload} (hp : ∀ p ∈ payloads, p.id? ≠ none) :
    Begun x payloads (x.run catalog (payloads.map fun p => .begin (.increase p))) := by
  induction payloads generalizing x with
  | nil => exact ⟨h, rfl, rfl, rfl, fun _ => (Int.add_zero _).symm⟩
  | cons p payloads ih =>
    obtain ⟨hp, hps⟩ := List.forall_mem_cons.mp hp
    obtain ⟨product, hproduct⟩ := Option.ne_none_iff_exists'.mp hp
    obtain ⟨a, hcall, hraising, hshown⟩ := h.increase ⟨true, catalog⟩ product
    have hbegin : begin ⟨true, catalog⟩ x.traffic.cart (.increase p) =
        increase ⟨true, catalog⟩ x.traffic.cart product := by
      simp only [begin, gated, gate, hproduct, if_true]
    let y : Exchange :=
      { x with traffic := x.traffic.step (increase ⟨true, catalog⟩ x.traffic.cart product) }
    have hy : x.handle catalog (.begin (.increase p)) = y := by
      simp only [y, ← hbegin]
      rfl
    have hawaited : y.traffic.underway.awaited = x.traffic.underway.awaited ++ [a] := by
      refine (Traffic.awaited_step _ _).trans ?_
      rw [hcall]
      rfl
    have hendings : y.traffic.underway.endings = x.traffic.underway.endings := by
      refine (Underway.endings_record _ _).trans ?_
      rw [hcall]
      exact List.append_nil _
    have hrest := ih (x := y) (hawaited ▸ hraising) hps
    rw [← hy] at hrest
    refine ⟨hrest.raising, hrest.memory.trans (by rw [hy]),
      hrest.endings.trans (by rw [hy, hendings]), hrest.waiting.trans ?_, fun q => (hrest.shown q).trans ?_⟩
    · rw [hy, hawaited, List.length_append, List.length_singleton, List.length_cons]
      omega
    · have hq : quantityOf q y.traffic.cart.lines =
          quantityOf q x.traffic.cart.lines + if q = product then 1 else 0 := hshown q
      rw [hy, hq, List.countP_cons, hproduct]
      by_cases he : q = product
      · simp only [he, if_true, decide_true]
        push_cast
        omega
      · have he' : ¬product = q := fun e => he e.symm
        simp [he, he']

/-- A cart that has just been loaded shows what is kept. -/
theorem raising_opened (catalog : Catalog) (cart : Cart) (hw : m.WellStocked) (hone : m.Single)
    (hreliable : m.failures = []) :
    let x := opened catalog cart m
    x.memory = m ∧ x.traffic.underway.awaited = [] ∧ Raising m x.traffic.cart [] := by
  obtain ⟨c, hopened⟩ := opened_eq catalog cart (m := m) (by simp [hreliable])
  rw [hopened]
  refine ⟨rfl, rfl, ?_⟩
  have hproducts := Memory.single_iff.mp hone
  obtain ⟨hlines, _, hfolded⟩ := shows_loaded hw ⟨true, catalog⟩ c
  rw [Row.merged_of_nodup hproducts] at hlines
  refine ⟨fun l hl => ?_, fun _ ha => (nomatch ha), fun product => ?_, fun product => ?_⟩
  · have hrow : l.row ∈ m.rows := hlines ▸ List.mem_map_of_mem hl
    obtain ⟨stored, hs, he⟩ := List.mem_map.mp hrow
    obtain ⟨hid, hp, hq⟩ := Row.mk.inj he
    refine ⟨hq ▸ hw.positive stored hs, fun ref href => ⟨stored.id, ?_, stored, hs, rfl, hp⟩⟩
    exact Option.some.inj (href.symm.trans hid.symm)
  · show quantityOf product (loaded ⟨true, catalog⟩ c m.cartPayload).lines =
      Row.total product m.rows
    rw [Row.total_of_nodup hproducts, ← hlines, first?_map_row, Option.map_map]
    rfl
  · exact (hfolded product).trans (Row.furtherIds_of_nodup hproducts)

/-- A cart without an operation under way shows what the backend keeps of each product. -/
theorem Agrees.quantityOf_of_quiet (h : x.Agrees) (hquiet : x.traffic.underway.awaited = [])
    (product : Int) :
    quantityOf product x.traffic.cart.lines = Row.total product x.memory.rows := by
  have hidle : ¬Busy x.traffic.underway.awaited product := by
    rintro ⟨a, ha, _⟩
    rw [hquiet] at ha
    cases ha
  have hconfirms : Confirms x.memory x.traffic.cart := by
    refine h.agreement.current.resolve_left fun ⟨a, ha, _⟩ => ?_
    rw [hquiet] at ha
    cases ha
  rw [quantityOf, h.agreement.mirrors product hidle,
    Row.total_of_nodup (Memory.single_iff.mp h.single), ← hconfirms product, first?_map_row,
    Option.map_map]
  rfl

/-- **No increase is lost.** A cart is loaded from a backend that does not fail and keeps at most
one line a product, whatever it answers changes with. Increases of any products begin before the first
answer, and the calls are answered in their order. Then a time comes when nothing waits; every
increase has ended with success by then, and of every product the backend keeps, and the cart shows,
what it did before and one more for each of its increases. -/
theorem increases_kept (catalog : Catalog) (cart : Cart) {memory : Memory}
    (hstocked : memory.WellStocked) (hsingle : memory.Single) (hreliable : memory.failures = [])
    {payloads : List Payload} (hp : ∀ p ∈ payloads, p.id? ≠ none) :
    let fresh := opened catalog cart memory
    let begun := fresh.run catalog (payloads.map fun p => .begin (.increase p))
    (∃ answered, (begun.answers catalog answered).traffic.underway.awaited = []) ∧
      ∀ answered, let y := begun.answers catalog answered
        y.traffic.underway.awaited = [] →
          y.traffic.underway.endings = fresh.traffic.underway.endings ++
            List.replicate payloads.length (.ok (.done true)) ∧
          ∀ product, let increases := payloads.countP fun p => p.id? = some product
            Row.total product y.memory.rows = Row.total product memory.rows + increases ∧
            quantityOf product y.traffic.cart.lines =
              quantityOf product fresh.traffic.cart.lines + increases := by
  intro fresh begun
  obtain ⟨hmemory, hidle, hraising⟩ := raising_opened catalog cart hstocked hsingle hreliable
  have hshown : ∀ product, quantityOf product fresh.traffic.cart.lines =
      Row.total product memory.rows := fun product => hraising.shown product
  have hbegun : Begun fresh payloads begun :=
    begun_increases (by rwa [hmemory, hidle]) catalog hp
  have hagrees : begun.Agrees := by
    refine (agrees_opened catalog cart hstocked hsingle (by simp [hreliable])).run fun e he => ?_
    obtain ⟨p, _, rfl⟩ := List.mem_map.mp he
    exact trivial
  have hraised : begun.Raised
      (fun product => Row.total product memory.rows + payloads.countP fun p => p.id? = some product)
      fresh.traffic.underway.endings payloads.length := by
    refine ⟨hagrees, ?_, hbegun.raising.waiting, fun product => ?_, 0, ?_, ?_⟩
    · rw [hbegun.memory, hmemory, hreliable]
    · rw [← hbegun.raising.shown, hbegun.shown, hshown]
    · rw [hbegun.endings]
      exact (List.append_nil _).symm
    · rw [hbegun.waiting, hidle]
      exact (Nat.zero_add _).trans (Nat.zero_add _)
  refine ⟨hraised.quiet catalog, ?_⟩
  intro answered y hquiet
  obtain ⟨hagrees, _, _, hkept, done, hended, hcount⟩ := hraised.answers catalog answered
  rw [hquiet, List.length_nil, Nat.add_zero] at hcount
  refine ⟨hcount ▸ hended, fun product => ?_⟩
  have htotal := hkept product
  rw [hquiet] at htotal
  refine ⟨htotal, ?_⟩
  rw [hagrees.quantityOf_of_quiet hquiet, hshown]
  exact htotal

/-- Two increases of a product with a line and two of one without, in turn, each change acknowledged
without its line. -/
theorem increases_kept_mixed :
    let memory : Memory :=
      ⟨[], [], [⟨1, 7, 2⟩, ⟨2, 9, 1⟩], .list [], .objects, .list, .acknowledgement, 3, []⟩
    let payloads : List Payload := [.int 7, .int 5, .text "7", .int 5]
    let fresh := opened .empty .empty memory
    let begun := fresh.run .empty (payloads.map fun p => .begin (.increase p))
    memory.WellStocked ∧ memory.Single ∧ (∀ p ∈ payloads, p.id? ≠ none) ∧
      ∃ answered, let y := begun.answers .empty answered
        y.traffic.underway.awaited = [] ∧ Row.total 7 y.memory.rows = 4 ∧
          Row.total 5 y.memory.rows = 2 ∧ quantityOf 5 y.traffic.cart.lines = 2 := by
  intro memory payloads fresh begun
  have hstocked : memory.WellStocked := ⟨by decide, by decide, by decide⟩
  have hsingle : memory.Single := by show List.Nodup _; decide
  have hp : ∀ p ∈ payloads, p.id? ≠ none := by decide +kernel
  obtain ⟨⟨answered, hquiet⟩, hkept⟩ :=
    increases_kept .empty .empty hstocked hsingle rfl hp
  obtain ⟨_, hkept⟩ := hkept answered hquiet
  exact ⟨hstocked, hsingle, hp, answered, hquiet, (hkept 7).1, (hkept 5).1, (hkept 5).2⟩

end Exchange

end Cart

end Shopfront
