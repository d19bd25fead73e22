import Shopfront.Proofs.Backend.Stock
import Shopfront.Proofs.Cart.Traffic

/-! A cart and the backend in memory that answers it. Main statement: a cart that has just been loaded
shows the backend's lines, merged (`shows_loaded`). -/

namespace Shopfront.Cart

structure Exchange where
  traffic : Traffic
  memory : Memory

namespace Exchange

/-- What may happen next. An answer is worked out when it is taken in, from the backend's cart at
that moment. -/
inductive Event where
  | begin (request : Request)
  | answer (place : Nat)
  | failNext (endpoint : Endpoint) (status : Option Int) (error : Option String)

def handle (catalog : Catalog) (x : Exchange) : Event → Exchange
  | .begin request => { x with traffic := x.traffic.handle catalog (.begin true request) }
  | .answer place =>
    match x.traffic.underway.awaited[place]? with
    | some a =>
      let (memory, reply) := x.memory.serve true a.call
      ⟨x.traffic.handle catalog (.reply place true reply), memory⟩
    | none => x
  | .failNext endpoint status error => { x with memory := x.memory.failNext endpoint status error }

def run (catalog : Catalog) (x : Exchange) (events : List Event) : Exchange :=
  events.foldl (handle catalog) x

/-- A cart that has just been loaded from the backend. -/
def opened (catalog : Catalog) (cart : Cart) (memory : Memory) : Exchange :=
  run catalog ⟨⟨cart, .idle⟩, memory⟩ [.begin .refresh, .answer 0]

/-- Failures in store for the listing of the cart are left out. -/
def Event.SparesListing : Event → Prop
  | .failNext endpoint _ _ => endpoint ≠ .getCart
  | _ => True

variable {catalog : Catalog}

theorem handle_answer {x : Exchange} {place : Nat} {a : Awaited Point}
    (h : x.traffic.underway.awaited[place]? = some a) :
    x.handle catalog (.answer place) =
      ⟨(x.traffic.take place).step
        (resume ⟨true, catalog⟩ x.traffic.cart a.point (x.memory.serve true a.call).2),
        (x.memory.serve true a.call).1⟩ := by
  simp only [handle, h, Traffic.handle]

theorem handle_answer_of_none {x : Exchange} {place : Nat}
    (h : x.traffic.underway.awaited[place]? = none) : x.handle catalog (.answer place) = x := by
  simp only [handle, h]

/-- The first call that waits is answered by a backend without failures in store: the operation goes
on, and its next call is the last that waits. -/
theorem handle_first (catalog : Catalog) {x : Exchange} {a : Awaited Point}
    {rest : List (Awaited Point)}
    (hw : x.traffic.underway.awaited = a :: rest) (hreliable : x.memory.failures = []) {m : Memory}
    {reply : Reply} (hact : x.memory.act a.call = (m, reply)) :
    let s := resume ⟨true, catalog⟩ x.traffic.cart a.point reply
    let y := x.handle catalog (.answer 0)
    y.memory = m ∧ y.traffic.cart = s.state ∧
      y.traffic.underway.awaited = rest ++ (Underway.callOf? s.progress).toList ∧
      y.traffic.underway.endings =
        x.traffic.underway.endings ++ (Underway.endingOf? s.progress).toList := by
  intro s y
  have hfirst : x.traffic.underway.awaited[0]? = some a := by rw [hw]; rfl
  have hy : y = ⟨(x.traffic.take 0).step s, m⟩ := by
    show x.handle catalog (.answer 0) = _
    rw [handle_answer hfirst, Memory.serve_eq_act hreliable, hact]
  rw [hy]
  refine ⟨rfl, rfl, ?_, Underway.endings_record ..⟩
  refine (Traffic.awaited_step _ s).trans ?_
  show x.traffic.underway.awaited.eraseIdx 0 ++ _ = _
  rw [hw]
  rfl

/-! ## Loaded carts -/

end Exchange

/-- The cart shows the rows, merged, and so they are confirmed. -/
structure Shows (c : Cart) (rows : List Row) : Prop where
  lines : c.lines.map Line.row = Row.merged rows
  confirmed : c.confirmed = c.lines
  folded : ∀ product, foldedIds product c.folded = Row.furtherIds product rows

theorem shows_reported (catalog : Catalog) (c : Cart) (p : Payload) :
    Shows (c.applySnapshot catalog p) (reportedRows (Report.listOf p)) := by
  obtain ⟨hl, hf⟩ := holds_merge catalog c.lines (Report.listOf p)
  exact ⟨hl, rfl, hf⟩

theorem shows_loaded_payload (ctx : Context) (c : Cart) (p : Payload) :
    Shows (loaded ctx c p) (reportedRows (Report.listOf p)) := by
  obtain ⟨hl, hc, hf⟩ := shows_reported ctx.catalog c p
  exact ⟨hl, hc, hf⟩

theorem shows_applySnapshot {m : Memory} (h : m.WellStocked) (catalog : Catalog) (c : Cart) :
    Shows (c.applySnapshot catalog m.cartPayload) m.rows := by
  rw [← h.reportedRows_cartPayload]
  exact shows_reported catalog c m.cartPayload

theorem shows_loaded {m : Memory} (h : m.WellStocked) (ctx : Context) (c : Cart) :
    Shows (loaded ctx c m.cartPayload) m.rows := by
  rw [← h.reportedRows_cartPayload]
  exact shows_loaded_payload ctx c m.cartPayload

/-- A product without a visible line has no rows; the line of any other is its rows taken together. -/
theorem Shows.lineOfRows? {c : Cart} {rows : List Row} (h : Shows c rows) (product : Int) :
    (lineOf? product c.lines = none ∧ Row.ofProduct product rows = []) ∨
      ∃ line, lineOf? product c.lines = some line ∧ line.row = Row.combined rows product ∧
        Row.ofProduct product rows ≠ [] := by
  have hfirst := Row.first?_merged product rows
  rw [← h.lines, first?_map_row, ← List.head?_filter, ← Row.ofProduct] at hfirst
  cases hrows : Row.ofProduct product rows with
  | nil =>
    rw [hrows] at hfirst
    exact .inl ⟨Option.map_eq_none_iff.mp hfirst, rfl⟩
  | cons r rs =>
    rw [hrows] at hfirst
    obtain ⟨line, hline, he⟩ := Option.map_eq_some_iff.mp hfirst
    exact .inr ⟨line, hline, he, List.cons_ne_nil r rs⟩

theorem Exchange.opened_eq (catalog : Catalog) (c : Cart) {m : Memory}
    (h : ∀ x ∈ m.failures, x.1 ≠ .getCart) :
    ∃ c₀ : Cart, opened catalog c m =
      let fresh := loaded ⟨true, catalog⟩ c₀ m.cartPayload
      ⟨⟨fresh, ⟨[], [.ok (.lines fresh.lines)]⟩⟩, m⟩ := by
  refine ⟨{ c with pending := c.pending + 1 }, ?_⟩
  have hbegin : handle catalog ⟨⟨c, .idle⟩, m⟩ (.begin .refresh) =
      ⟨⟨{ c with pending := c.pending + 1 }, ⟨[⟨.getCart, .loading .nothing⟩], []⟩⟩, m⟩ := rfl
  rw [opened, run, List.foldl_cons, List.foldl_cons, List.foldl_nil, hbegin, handle_answer rfl,
    Memory.serve_getCart h]
  rfl

/-! ## Replies to changes -/

/-- A reply to a change. Of the product the backend keeps a line or nothing; the change shows the
same row, or a line that still wants an id. -/
structure Replied (m : Memory) (product : Int) (shown : Option Line) (line : Option StoredLine)
    (reply : Payload) : Prop where
  stocked : m.WellStocked
  kept : ∀ l ∈ line, l.product = product ∧ l ∈ m.cart
  shown : shown.map Line.row = line.map StoredLine.row ∨ ∃ l, shown = some l ∧ l.id = none
  reply : Memory.Acknowledges m line reply

variable {m : Memory} {product : Int} {shown : Option Line} {line : Option StoredLine} {p : Payload}

theorem Replied.row_product (h : Replied m product shown line p) :
    ∀ r ∈ line.map StoredLine.row, r.product = product :=
  StoredLine.product_row fun l hl => (h.kept l hl).1

theorem Replied.eq_cartPayload (h : Replied m product shown line p) (hp : isSnapshot p = true) :
    p = m.cartPayload := by
  cases h.reply with
  | snapshot => rfl
  | line _ => cases hp
  | note _ => cases hp

/-- A reply other than a snapshot settles on the backend's row, or leaves the line without an id. -/
theorem Replied.row_settledLine (h : Replied m product shown line p) (ctx : Context) (c : Cart)
    (hp : isSnapshot p = false) :
    (settledLine ctx c product shown p).map Line.row = line.map StoredLine.row ∨
      ∃ l, settledLine ctx c product shown p = some l ∧ l.id = none ∧ shown = some l := by
  cases h.reply with
  | snapshot => cases hp
  | @line l hl =>
    obtain ⟨hlp, hmem⟩ := h.kept l hl
    have hq : ¬l.quantity < 1 := Int.not_lt.mpr (h.stocked.positive l hmem)
    left
    rw [settledLine, Memory.report?_payload, hl]
    show (if l.product = product then lineFromReport ctx c l.report shown
      else acknowledge l.payload shown).map Line.row = some l.row
    rw [if_pos hlp, lineFromReport]
    show (if l.quantity < 1 then none else some _).map Line.row = some l.row
    rw [if_neg hq]
    rfl
  | note message =>
    have hshown : settledLine ctx c product shown (Memory.note message) = shown := by
      rw [settledLine, Memory.report?_note]
      show shown.map (fun l => { l with id := l.id.or (acknowledgedId? (Memory.note message)) }) = _
      simp only [Memory.acknowledgedId?_note, Option.or_none, Option.map_id']
    rw [hshown]
    exact h.shown.imp_right fun ⟨l, hl, hid⟩ => ⟨l, hl, hid, hl⟩

end Shopfront.Cart
