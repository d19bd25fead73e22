import Shopfront.Proofs.Cart.Exchange
import Shopfront.Proofs.Cart.Mirror

/-! Agreement of a cart with a backend that keeps at most one line a product. Operations may overlap
in any way. The confirmed lines are those of the backend unless the cart is about to be loaded, and
the visible lines are the confirmed ones where no operation is changing them. Main statement: a cart
without an operation under way shows what the backend keeps (`Exchange.rows_perm_of_quiet`). -/

namespace Shopfront.Cart

/-! ## Lines and calls that name the backend's lines rightly -/

/-- The id of a line, if it has one, was given out for its product. -/
def Line.Known (m : Memory) (l : Line) : Prop :=
  ∀ ref, l.id = some ref → ∃ id : Nat, ref = .number id ∧ m.Knows id l.product

structure Tracked (m : Memory) (lines : List Line) : Prop where
  distinct : (lines.map (·.product)).Nodup
  known : ∀ l ∈ lines, l.Known m

structure Tracks (m : Memory) (c : Cart) : Prop where
  lines : Tracked m c.lines
  confirmed : Tracked m c.confirmed
  unfolded : ∀ product, foldedIds product c.folded = []

/-- What an operation waits for: the cart, or a change that it shows. -/
inductive Sent (m : Memory) : Call → Point → Prop
  | load (next) : Sent m .getCart (.loading next)
  | add {line product} : line.product = product → line.id = none →
      Sent m (.addToCart product 1) (.sending product (some line) false)
  | update {line : Line} {product quantity} {id : Nat} : line.product = product →
      line.quantity = quantity → line.id = some (.number id) → m.Knows id product →
      Sent m (.updateCartLine (.int id) quantity) (.sending product (some line) false)
  | remove {product} {id : Nat} : m.Knows id product →
      Sent m (.removeCartLine (.int id)) (.sending product none false)

variable {m m' : Memory} {ctx : Context} {c : Cart}

theorem Sent.onCart {call : Call} {point : Point} (h : Sent m call point) : Memory.OnCart call := by
  cases h with
  | load _ => exact .list
  | add _ _ => exact .add _ (Int.le_refl 1)
  | update _ _ _ _ => exact .update _ _
  | remove _ => exact .remove _

theorem Sent.fits {call : Call} {point : Point} (h : Sent m call point) : point.Fits := by
  intro product shown hp l hl
  cases h with
  | load _ => cases hp
  | add hline _ | update hline _ _ _ =>
    cases hp
    cases hl
    exact hline
  | remove _ => cases hp; cases hl

theorem Line.Known.mono (hk : ∀ id product, m.Knows id product → m'.Knows id product) {l : Line}
    (h : l.Known m) : l.Known m' := by
  intro ref hr
  obtain ⟨id, rfl, hid⟩ := h ref hr
  exact ⟨id, rfl, hk _ _ hid⟩

theorem Tracked.mono (hk : ∀ id product, m.Knows id product → m'.Knows id product)
    {lines : List Line} (h : Tracked m lines) : Tracked m' lines :=
  ⟨h.distinct, fun l hl => (h.known l hl).mono hk⟩

theorem Tracks.mono (hk : ∀ id product, m.Knows id product → m'.Knows id product)
    (h : Tracks m c) : Tracks m' c := ⟨h.lines.mono hk, h.confirmed.mono hk, h.unfolded⟩

theorem Sent.mono (hk : ∀ id product, m.Knows id product → m'.Knows id product) {call : Call}
    {point : Point} (h : Sent m call point) : Sent m' call point := by
  cases h with
  | load next => exact .load next
  | add hline hid => exact .add hline hid
  | update hline hq hid hknows => exact .update hline hq hid (hk _ _ hknows)
  | remove hknows => exact .remove (hk _ _ hknows)

theorem Tracked.withLine {product : Int} {shown : Option Line} {lines : List Line}
    (h : Tracked m lines) (hs : ∀ l ∈ shown, l.product = product ∧ l.Known m) :
    Tracked m (withLine product shown lines) := by
  rw [withLine_eq_settleBy]
  refine ⟨nodup_settleBy (fun l hl => (hs l hl).1) h.distinct, fun l hl => ?_⟩
  rcases mem_settleBy hl with hl | hl
  · exact (hs l hl).2
  · exact h.known l hl

/-! ## Steps that take no reply in -/

theorem Change.sent {product : Int} {shown : Option Line} {call : Call}
    (h : Change ctx c product shown call) (ht : Tracks m c) :
    Sent m call (.sending product shown false) ∧ ∀ l ∈ shown, l.Known m := by
  have known : ∀ {line}, lineOf? product c.lines = some line →
      line.product = product ∧ line.Known m :=
    fun hl => ⟨product_of_lineOf? hl, ht.lines.known _ (mem_of_lineOf? hl)⟩
  have named : ∀ {line ref}, lineOf? product c.lines = some line → line.id = some ref →
      ∃ id : Nat, ref = .number id ∧ m.Knows id product := by
    intro line ref hl hid
    obtain ⟨hp, hk⟩ := known hl
    exact hp ▸ hk ref hid
  cases h with
  | add _ =>
    refine ⟨.add rfl rfl, fun l hl => ?_⟩
    cases hl
    intro ref hr
    cases hr
  | addAgain hl hid =>
    obtain ⟨hp, hk⟩ := known hl
    refine ⟨.add hp hid, fun l hl => ?_⟩
    cases hl
    exact hk
  | raise hl hid | lower hl hid _ =>
    obtain ⟨hp, hk⟩ := known hl
    obtain ⟨id, rfl, hknows⟩ := named hl hid
    refine ⟨?_, fun l hl => ?_⟩
    · apply Sent.update
      · exact hp
      · rfl
      · exact hid
      · exact hknows
    · cases hl
      exact hk
  | drop hl hid =>
    obtain ⟨id, rfl, hknows⟩ := named hl hid
    exact ⟨.remove hknows, fun _ hl => nomatch hl⟩

/-- A cart that tracks the backend, and a call that does. -/
structure TrackStep (m : Memory) (s : Step) : Prop where
  cart : Tracks m s.state
  sent : ∀ a, Underway.callOf? s.progress = some a → Sent m a.call a.point

theorem Continues.tracks (hauth : ctx.authenticated = true) {s : Step} (h : Continues ctx c s)
    (ht : Tracks m c) : TrackStep m s ∧ s.state.confirmed = c.confirmed := by
  induction h with
  | finish c _ => exact ⟨⟨ht, fun _ ha => nomatch ha⟩, rfl⟩
  | fail c _ => exact ⟨⟨⟨ht.lines, ht.confirmed, ht.unfolded⟩, fun _ ha => nomatch ha⟩, rfl⟩
  | @send c product shown call hch =>
    obtain ⟨hsent, hknown⟩ := hch.sent ht
    have hlines := ht.lines.withLine fun l hl => ⟨hch.product_eq l hl, hknown l hl⟩
    refine ⟨⟨⟨hlines, ht.confirmed, ht.unfolded⟩, fun a ha => ?_⟩, rfl⟩
    cases ha
    rw [ht.unfolded product]
    exact hsent
  | load c next _ =>
    refine ⟨⟨⟨ht.lines, ht.confirmed, ht.unfolded⟩, fun a ha => ?_⟩, rfl⟩
    cases ha
    exact .load next
  | empty hnot _ _ => exact absurd hauth (Bool.eq_false_iff.mp hnot)
  | after _ _ ih =>
    obtain ⟨⟨hcart, hsent⟩, hconf⟩ := ih ht
    exact ⟨⟨hcart, hsent⟩, hconf⟩

/-! ## Answered changes -/

/-- What a change does to the backend: its product's row is now that of the line. -/
structure Written (m m' : Memory) (product : Int) (shown : Option Line) (line : Option StoredLine)
    (reply : Payload) : Prop extends Replied m' product shown line reply where
  rows : m'.rows = settleBy Row.product product (line.map StoredLine.row) m.rows

theorem Sent.written (hw : m.WellStocked) (hone : m.Single) {call : Call} {product : Int}
    {shown : Option Line} {folding : Bool} {p : Payload}
    (h : Sent m call (.sending product shown folding)) (hs : Memory.Served m call m' (.value p)) :
    ∃ line, Written m m' product shown line p := by
  have hw' := hs.wellStocked hw h.onCart
  have only : ∀ {l}, l ∈ m.cart → ∀ l' ∈ m.cart, l'.product = l.product → l' = l :=
    fun hl l' hl' he => List.inj_on_of_nodup_map hone hl' hl he
  have same : ∀ {id : Nat} {l : StoredLine}, Payload.int id = .int l.id → l.id = id := by
    intro id l he
    have hid := Payload.int.inj he
    omega
  cases h with
  | @add line _ hp hid =>
    cases hs with
    | @raised _ _ l stored _ hl hstored ha =>
      have hmem := List.mem_of_find?_eq_some hl
      have hlp : l.product = product := by simpa using List.find?_some hl
      refine ⟨some stored, ⟨hw', fun x hx => ?_, .inr ⟨line, rfl, hid⟩, ha⟩, ?_⟩
      · cases hx
        refine ⟨?_, mem_settleBy_self ..⟩
        rw [hstored]
        exact hlp
      · rw [hw.rows_keepLine hmem (only hmem), hlp]
    | added hnew ha =>
      refine ⟨some (m.newLine product 1), ⟨hw', fun x hx => ?_, .inr ⟨line, rfl, hid⟩, ha⟩,
        Memory.rows_appendLine hnew 1⟩
      cases hx
      exact ⟨rfl, List.mem_append_right _ (List.mem_singleton_self _)⟩
  | @update line _ quantity id hp hq hid hknows =>
    cases hs with
    | @updated l _ _ stored _ hl hname _ hstored ha =>
      have he := same hname
      have hlp := hknows.product l hl he
      refine ⟨some stored, ⟨hw', fun x hx => ?_, .inl ?_, ha⟩, ?_⟩
      · cases hx
        refine ⟨?_, mem_settleBy_self ..⟩
        rw [hstored]
        exact hlp
      · rw [hstored, Option.map_some, Option.map_some, Line.row, StoredLine.row, hid, hp, hq, hlp, he]
      · rw [hw.rows_keepLine hl (only hl), hlp]
  | @remove _ id hknows =>
    cases hs with
    | @removed l _ _ hl hname ha =>
      have hlp := hknows.product l hl (same hname)
      refine ⟨none, ⟨hw', fun _ hx => ?_, .inl rfl, ha⟩, ?_⟩
      · cases hx
      · rw [hw.rows_keepLine hl (only hl), hlp]

variable {product : Int} {shown : Option Line} {line : Option StoredLine} {p : Payload}

theorem Written.single (h : Written m m' product shown line p) (hone : m.Single) : m'.Single := by
  rw [Memory.single_iff, h.rows]
  exact nodup_settleBy h.row_product (Memory.single_iff.mp hone)

theorem known_of_row_eq (hw : m.WellStocked) {stored : StoredLine} (hs : stored ∈ m.cart) {l : Line}
    (he : l.row = stored.row) : l.Known m := by
  obtain ⟨hid, hp, _⟩ := Row.mk.inj he
  intro ref hr
  refine ⟨stored.id, Option.some.inj (hr.symm.trans hid), ?_⟩
  rw [hp]
  exact hw.knows hs

variable (ctx) in
theorem Written.tracks_settleOn (h : Written m m' product shown line p)
    (hp : isSnapshot p = false) (hshown : ∀ l ∈ shown, l.product = product) (ht : Tracks m' c) :
    Tracks m' (settleOn c product (settledLine ctx c product shown p)) := by
  have hline : ∀ l ∈ settledLine ctx c product shown p, l.product = product ∧ l.Known m' := by
    intro l hl
    refine ⟨product_eq_settledLine hshown l hl, ?_⟩
    rcases h.row_settledLine ctx c hp with he | ⟨l', hl', hid, _⟩
    · rw [hl] at he
      obtain ⟨stored, hstored, he⟩ := Option.map_eq_some_iff.mp he.symm
      exact known_of_row_eq h.stocked (h.kept stored hstored).2 he.symm
    · cases hl.symm.trans hl'
      intro ref hr
      cases hid.symm.trans hr
  exact ⟨ht.lines.withLine hline, ht.confirmed.withLine hline, ht.unfolded⟩

/-! ## The invariant -/

/-- The confirmed lines are those that the backend keeps. -/
def Confirms (m : Memory) (c : Cart) : Prop :=
  ∀ p, Row.first? p (c.confirmed.map Line.row) = Row.first? p m.rows

structure Agreement (m : Memory) (c : Cart) (awaited : List (Awaited Point)) : Prop where
  cart : Tracks m c
  sent : ∀ a ∈ awaited, Sent m a.call a.point
  mirrors : Mirrors c awaited
  current : (∃ a ∈ awaited, a.call = .getCart) ∨ Confirms m c

variable {rest : List (Awaited Point)}

theorem sent_append {s : Step} (hrest : ∀ a ∈ rest, Sent m a.call a.point) (hs : TrackStep m s) :
    ∀ a ∈ rest ++ (Underway.callOf? s.progress).toList, Sent m a.call a.point := by
  intro a ha
  rcases List.mem_append.mp ha with ha | ha
  · exact hrest a ha
  · exact hs.sent a (Option.mem_toList.mp ha)

theorem current_append (h : (∃ a ∈ rest, a.call = .getCart) ∨ Confirms m c)
    (more : List (Awaited Point)) :
    (∃ a ∈ rest ++ more, a.call = .getCart) ∨ Confirms m c := by
  rcases h with ⟨a, ha, hcall⟩ | h
  · exact .inl ⟨a, List.mem_append_left _ ha, hcall⟩
  · exact .inr h

theorem Agreement.continues (hauth : ctx.authenticated = true) (h : Agreement m c rest) {s : Step}
    (hs : Continues ctx c s) :
    Agreement m s.state (rest ++ (Underway.callOf? s.progress).toList) := by
  obtain ⟨htrack, hconf⟩ := hs.tracks hauth h.cart
  refine ⟨htrack.cart, sent_append h.sent htrack, hs.mirrors h.mirrors, ?_⟩
  refine current_append (h.current.imp_right fun hc p => ?_) _
  rw [hconf]
  exact hc p

/-- A cart that has just taken the backend's lines over. -/
theorem Shows.agreement (h : Shows c m.rows) (hw : m.WellStocked) (hone : m.Single)
    (hrest : ∀ a ∈ rest, Sent m a.call a.point) : Agreement m c rest := by
  have hproducts := Memory.single_iff.mp hone
  have hlines : c.lines.map Line.row = m.rows := by rw [h.lines, Row.merged_of_nodup hproducts]
  have htracked : Tracked m c.lines := by
    refine ⟨?_, fun l hl => ?_⟩
    · rw [← hlines, List.map_map] at hproducts
      exact hproducts
    · have hrow : l.row ∈ m.rows := hlines ▸ List.mem_map_of_mem hl
      obtain ⟨stored, hs, he⟩ := List.mem_map.mp hrow
      exact known_of_row_eq hw hs he.symm
  refine ⟨⟨htracked, h.confirmed ▸ htracked, fun p => ?_⟩, hrest, mirrors_of_eq h.confirmed.symm _,
    .inr fun p => ?_⟩
  · rw [h.folded, Row.furtherIds_of_nodup hproducts]
  · rw [h.confirmed, hlines]

/-- A change that is settled brings its product's row to the confirmed lines. -/
theorem Written.confirms_settleOn (h : Written m m' product shown line p) {settled : Option Line}
    (he : settled.map Line.row = line.map StoredLine.row) (hc : Confirms m c) :
    Confirms m' (settleOn c product settled) := by
  intro q
  show Row.first? q ((withLine product settled c.confirmed).map Line.row) = _
  rw [row_withLine, he, h.rows, Row.first?_settleBy h.row_product, Row.first?_settleBy h.row_product,
    hc q]

theorem Settles.agreement (hauth : ctx.authenticated = true) {s : Step}
    (hs : Settles ctx c product shown p s) (h : Written m m' product shown line p)
    (hone : m.Single) (hm : MirrorStep s rest) (ht : Tracks m' c)
    (hshown : ∀ l ∈ shown, l.product = product) (hrest : ∀ a ∈ rest, Sent m' a.call a.point)
    (hcurrent : (∃ a ∈ rest, a.call = .getCart) ∨ Confirms m c) :
    Agreement m' s.state (rest ++ (Underway.callOf? s.progress).toList) := by
  induction hs with
  | snapshot hp =>
    cases h.eq_cartPayload hp
    have hnew : Agreement m' _ rest :=
      (shows_applySnapshot h.stocked ctx.catalog { release c with error := none }).agreement
        h.stocked (h.single hone) hrest
    exact hnew.continues hauth (.finish _ (.done true))
  | line hp hl hid =>
    have ht' := h.tracks_settleOn ctx hp hshown ht
    rw [hl] at ht'
    refine ⟨ht', sent_append hrest ⟨ht', fun _ ha => nomatch ha⟩, hm, current_append ?_ _⟩
    refine hcurrent.imp_right fun hc => h.confirms_settleOn ?_ hc
    rcases h.row_settledLine ctx c hp with he | ⟨l, hl', hn, _⟩
    · rwa [hl] at he
    · exact absurd hn (hid l (hl.symm.trans hl'))
  | @unnamed l hp hl hid =>
    have ht' := h.tracks_settleOn ctx hp hshown ht
    rw [hl] at ht'
    obtain ⟨hstep, _⟩ := (reload_continues .succeed).tracks hauth ht'
    refine ⟨hstep.cart, sent_append hrest hstep, hm, .inl ?_⟩
    refine ⟨⟨.getCart, .loading .succeed⟩, List.mem_append_right _ ?_, rfl⟩
    rw [reload, if_pos hauth]
    exact List.mem_singleton_self _
  | after _ _ ih => exact ih hm

theorem Agreement.mono (hk : ∀ id product, m.Knows id product → m'.Knows id product)
    (hrows : m'.rows = m.rows) {awaited : List (Awaited Point)} (h : Agreement m c awaited) :
    Agreement m' c awaited := by
  refine ⟨h.cart.mono hk, fun a ha => (h.sent a ha).mono hk, h.mirrors, ?_⟩
  refine h.current.imp_right fun hc p => ?_
  rw [hrows]
  exact hc p

variable (ctx) in
/-- The answer to a change; `rest` are the other operations that wait. -/
theorem Agreement.answered (hauth : ctx.authenticated = true) {call : Call} {reply : Reply}
    {awaited : List (Awaited Point)} (h : Agreement m c awaited) (hw : m.WellStocked)
    (hone : m.Single) (hs : Memory.Served m call m' reply) (hcall : call ≠ .getCart)
    (hrest : ∀ a, a ∈ awaited ↔ a = ⟨call, .sending product shown false⟩ ∨ a ∈ rest) :
    let s := resume ctx c (.sending product shown false) reply
    m'.Single ∧ Agreement m' s.state (rest ++ (Underway.callOf? s.progress).toList) := by
  have hknows := fun id product (hk : m.Knows id product) => hs.knows hk
  have hsent : Sent m call (.sending product shown false) := h.sent _ ((hrest _).mpr (.inl rfl))
  have hothers : ∀ a ∈ rest, Sent m a.call a.point := fun a ha => h.sent a ((hrest a).mpr (.inr ha))
  -- the answer is to a change, so a load that was owed is still awaited
  have hcurrent : (∃ a ∈ rest, a.call = .getCart) ∨ Confirms m c := by
    refine h.current.imp_left fun ⟨a, ha, hget⟩ => ?_
    rcases (hrest a).mp ha with rfl | ha
    · exact absurd hget hcall
    · exact ⟨a, ha, hget⟩
  have hmirrors : Mirrors c (⟨call, .sending product shown false⟩ :: rest) := by
    intro p hp
    refine h.mirrors p fun ⟨a, ha, hb⟩ => hp ⟨a, List.mem_cons.mpr ((hrest a).mp ha), hb⟩
  cases reply with
  | value p =>
    obtain ⟨line, hwritten⟩ := hsent.written hw hone hs
    have hstep : MirrorStep (resume ctx c (.sending product shown false) (.value p)) rest :=
      (resume_resumes _ _).mirrors (fun _ hf => nomatch hf) hsent.fits hmirrors
    exact ⟨hwritten.single hone, (settle_settles product shown p).agreement hauth hwritten hone
      hstep (h.cart.mono hknows) (hsent.fits _ _ rfl) (fun a ha => (hothers a ha).mono hknows)
      hcurrent⟩
  | failure f =>
    cases hs with
    | refused _ hcart _ _ =>
      have hrows : m'.rows = m.rows := by rw [Memory.rows, hcart, Memory.rows]
      have hreverted : Agreement m { c with lines := c.confirmed } rest :=
        ⟨⟨h.cart.confirmed, h.cart.confirmed, h.cart.unfolded⟩, hothers, mirrors_of_eq rfl _,
          hcurrent⟩
      refine ⟨?_, (hreverted.mono hknows hrows).continues hauth
        (revert_continues product false f)⟩
      rwa [Memory.Single, hcart]
  | fault _ => cases hs

/-! ## Exchanges -/

namespace Exchange

structure Agrees (x : Exchange) : Prop where
  stocked : x.memory.WellStocked
  single : x.memory.Single
  spared : ∀ f ∈ x.memory.failures, f.1 ≠ .getCart
  agreement : Agreement x.memory x.traffic.cart x.traffic.underway.awaited

variable {catalog : Catalog} {x : Exchange}

theorem agrees_step {t : Traffic} {s : Step} (hw : m.WellStocked) (hone : m.Single)
    (hf : ∀ f ∈ m.failures, f.1 ≠ .getCart)
    (h : Agreement m s.state (t.underway.awaited ++ (Underway.callOf? s.progress).toList)) :
    Agrees ⟨t.step s, m⟩ := by
  refine ⟨hw, hone, hf, ?_⟩
  show Agreement m s.state (t.step s).underway.awaited
  rwa [Traffic.awaited_step]

theorem agrees_opened (catalog : Catalog) (cart : Cart) (hw : m.WellStocked) (hone : m.Single)
    (hf : ∀ f ∈ m.failures, f.1 ≠ .getCart) : (opened catalog cart m).Agrees := by
  obtain ⟨c₀, he⟩ := opened_eq catalog cart hf
  rw [he]
  exact ⟨hw, hone, hf, (shows_loaded hw _ c₀).agreement hw hone fun _ ha => nomatch ha⟩

theorem Agrees.answer (h : x.Agrees) (place : Nat) : (x.handle catalog (.answer place)).Agrees := by
  cases ha : x.traffic.underway.awaited[place]? with
  | none =>
    rw [handle_answer_of_none ha]
    exact h
  | some a =>
    have hmem := Underway.mem_awaited_take ha
    have hsent := h.agreement.sent a ((hmem a).mpr (.inl rfl))
    have hserved := h.stocked.serve_served hsent.onCart
    have hstocked := hserved.wellStocked h.stocked hsent.onCart
    have hspared : ∀ f ∈ (x.memory.serve true a.call).1.failures, f.1 ≠ .getCart :=
      fun f hf => h.spared f (hserved.failures hf)
    obtain ⟨call, point⟩ := a
    have changed : ∀ {product shown}, point = .sending product shown false → call ≠ .getCart →
        (x.handle catalog (.answer place)).Agrees := by
      rintro product shown rfl hcall
      obtain ⟨hone, hagree⟩ := h.agreement.answered ⟨true, catalog⟩ rfl h.stocked h.single
        hserved hcall hmem
      rw [handle_answer ha]
      exact agrees_step hstocked hone hspared hagree
    cases hsent with
    | load next =>
      have hserve := Memory.serve_getCart h.spared
      have hothers : ∀ b ∈ (x.traffic.underway.take place).awaited, Sent x.memory b.call b.point :=
        fun b hb => h.agreement.sent b ((hmem b).mpr (.inr hb))
      have hfresh := (shows_loaded h.stocked ⟨true, catalog⟩ x.traffic.cart).agreement h.stocked
        h.single hothers
      rw [handle_answer ha, hserve]
      exact agrees_step h.stocked h.single h.spared
        (hfresh.continues rfl (.after _ (proceed_proceeds next).continues))
    | add _ _ => exact changed rfl fun he => nomatch he
    | update _ _ _ _ => exact changed rfl fun he => nomatch he
    | remove _ => exact changed rfl fun he => nomatch he

theorem Agrees.handle (h : x.Agrees) {e : Event} (he : e.SparesListing) :
    (x.handle catalog e).Agrees := by
  cases e with
  | begin request =>
    exact agrees_step h.stocked h.single h.spared
      (h.agreement.continues rfl (begin_continues request))
  | answer place => exact h.answer place
  | failNext endpoint status error =>
    have hknows : ∀ id product, x.memory.Knows id product →
        (x.memory.failNext endpoint status error).Knows id product :=
      fun _ _ hk => ⟨hk.given, hk.product⟩
    exact ⟨h.stocked.failNext .., h.single, Memory.spares_failNext h.spared he _ _,
      h.agreement.mono hknows rfl⟩

theorem Agrees.run (h : x.Agrees) {events : List Event} (he : ∀ e ∈ events, e.SparesListing) :
    (x.run catalog events).Agrees := by
  induction events generalizing x with
  | nil => exact h
  | cons e es ih =>
    obtain ⟨hspares, hes⟩ := List.forall_mem_cons.mp he
    exact ih (h.handle hspares) hes

/-- **A quiet cart shows what the backend keeps.** From a cart that has just been loaded, however
operations overlap, in whatever order their calls are answered and whichever changes fail: when no
operation is under way, the lines and the backend's lines are the same. -/
theorem rows_perm_of_quiet (catalog : Catalog) (cart : Cart) (memory : Memory)
    (hstocked : memory.WellStocked) (hsingle : memory.Single)
    (hspared : ∀ f ∈ memory.failures, f.1 ≠ .getCart) (events : List Event)
    (hevents : ∀ e ∈ events, e.SparesListing) {x : Exchange}
    (hx : (opened catalog cart memory).run catalog events = x)
    (hquiet : x.traffic.underway.awaited = []) :
    (x.traffic.cart.lines.map Line.row).Perm x.memory.rows := by
  have hagrees : x.Agrees := hx ▸ (agrees_opened catalog cart hstocked hsingle hspared).run hevents
  obtain ⟨_, hone, _, hcart, _, hmirrors, hcurrent⟩ := hagrees
  have hidle : ∀ p, ¬Busy x.traffic.underway.awaited p := by
    rintro p ⟨a, ha, _⟩
    rw [hquiet] at ha
    cases ha
  have hconfirms : Confirms x.memory x.traffic.cart := by
    rcases hcurrent with ⟨a, ha, _⟩ | hc
    · rw [hquiet] at ha
      cases ha
    · exact hc
  refine Row.perm_of_first?_eq ?_ (Memory.single_iff.mp hone) fun p => ?_
  · rw [List.map_map]
    exact hcart.lines.distinct
  · rw [← hconfirms p, first?_map_row, first?_map_row, hmirrors p (hidle p)]

/-- A change that fails while another product is added and a third one removed. -/
theorem rows_perm_of_quiet_overlapping :
    let memory : Memory :=
      ⟨[], [], [⟨1, 7, 2⟩, ⟨2, 9, 1⟩], .list [], .objects, .list, .acknowledgement, 3, []⟩
    let events : List Event :=
      [.begin (.increase (.int 7)), .begin (.increase (.int 5)), .failNext .updateCartLine none none,
        .answer 0, .begin (.remove (.int 9)), .answer 1, .answer 0, .answer 0]
    let x := (opened .empty .empty memory).run .empty events
    memory.WellStocked ∧ memory.Single ∧ (∀ f ∈ memory.failures, f.1 ≠ .getCart) ∧
      (∀ e ∈ events, e.SparesListing) ∧ x.traffic.underway.awaited = [] ∧
      (x.traffic.cart.lines.map Line.row).Perm x.memory.rows := by
  intro memory events x
  have hstocked : memory.WellStocked := ⟨by decide, by decide, by decide⟩
  have hsingle : memory.Single := by show List.Nodup _; decide
  have hspared : ∀ f ∈ memory.failures, f.1 ≠ .getCart := fun _ hf => nomatch hf
  have hevents : ∀ e ∈ events, e.SparesListing := by simp [events, Event.SparesListing]
  have hquiet : x.traffic.underway.awaited = [] := List.isEmpty_iff.mp (by decide +kernel)
  exact ⟨hstocked, hsingle, hspared, hevents, hquiet,
    rows_perm_of_quiet .empty .empty memory hstocked hsingle hspared events hevents rfl hquiet⟩

end Exchange

end Shopfront.Cart
