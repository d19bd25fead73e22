import Shopfront.Proofs.Cart.Stage
import Shopfront.Proofs.Cart.Undo

/-! What an operation deletes when it folds a product's further lines into the first. Whatever was
loaded, an operation that runs on its own and succeeds has sent its change before and then deletes the
further lines one by one (`runs_send`). Main statement: before each of them the quantity of all has
been put on another line exactly if the first line has an id that no further line repeats
(`folds_safely_iff`); a first line without an id is added to, and what is deleted then is lost
(`deleted_after_add`). -/

namespace Shopfront.Cart

/-- A call that has been answered, and the point where its operation waited. -/
structure Answered where
  call : Call
  point : Point
  reply : Reply

/-- An operation on its own goes on from a step, reply by reply. -/
inductive Runs (ctx : Context) : Step → List Answered → Step → Prop
  | rest (s) : Runs ctx s [] s
  | reply {s call point log last} (reply) : s.progress = .calling call point →
      Runs ctx (resume ctx s.state point reply) log last →
      Runs ctx s (⟨call, point, reply⟩ :: log) last

namespace Answered

/-- A further line of a product is deleted. -/
structure Deletes (a : Answered) (id : Reference) : Prop where
  call : a.call = .removeCartLine id.payload
  folding : ∃ product shown rest, a.point = .folding product shown rest

/-- A quantity has been put on a line. -/
structure Puts (a : Answered) (id : Reference) (quantity : Int) : Prop where
  call : a.call = .updateCartLine id.payload quantity
  done : ∃ p, a.reply = .value p

/-- The cart is loaded. -/
structure Loads (a : Answered) : Prop where
  call : a.call = .getCart
  loading : ∃ next, a.point = .loading next

/-- The payload that has confirmed a change, or the deletion of a further line. -/
def confirmed? : Answered → Option Payload
  | ⟨_, .sending .., .value p⟩ => some p
  | ⟨_, .folding .., .value p⟩ => some p
  | _ => none

variable {a : Answered} {id : Reference}

theorem loads_nil : ∀ a ∈ ([] : List Answered), a.Loads := fun _ h => nomatch h

theorem Loads.not_deletes (h : a.Loads) : ¬a.Deletes id := by
  rintro ⟨hcall, _⟩
  cases h.call.symm.trans hcall

theorem Loads.not_puts (h : a.Loads) {line : Reference} {quantity : Int} :
    ¬a.Puts line quantity := by
  rintro ⟨hcall, _⟩
  cases h.call.symm.trans hcall

theorem Deletes.not_puts (h : a.Deletes id) {line : Reference} {quantity : Int} :
    ¬a.Puts line quantity := by
  rintro ⟨hcall, _⟩
  cases h.call.symm.trans hcall

theorem Deletes.eq {id' : Reference} (h : a.Deletes id) (h' : a.Deletes id') : id = id' :=
  Reference.payload_inj (Call.removeCartLine.inj (h.call.symm.trans h'.call))

end Answered

/-- The reply that a change is settled on. -/
def settledOn? (log : List Answered) : Option Payload :=
  (log.filterMap Answered.confirmed?).getLast?

/-- Whenever a further line is deleted, the quantity has been put on the line `first` before, and that
is another line. -/
def FoldsSafely (first : Option Reference) (quantity : Int) (log : List Answered) : Prop :=
  ∀ before a after id, log = before ++ a :: after → a.Deletes id →
    ∃ line b, first = some line ∧ b ∈ before ∧ b.Puts line quantity ∧ id ≠ line

/-- What has been answered to a change that went through: the change was sent, then further lines were
deleted, and the cart may have been loaded at the end. -/
inductive GoesThrough (call : Call) (ids : List Reference) : List Answered → Prop
  | mk {product shown folding p deleted loads} : List.Forall₂ Answered.Deletes deleted ids →
      (∀ a ∈ loads, a.Loads) →
      GoesThrough call ids
        (⟨call, .sending product shown folding, .value p⟩ :: (deleted ++ loads))

/-- The payload that a change is worked out from: the one that a decrease has loaded for want of an id,
or else the one that was there before. -/
def source (before : Payload) : List Answered → Payload
  | ⟨_, .loading (.decrease _), .value p⟩ :: _ => p
  | _ => before

/-- The first of a product's rows has an id, and no further one has the same; or the further rows have
no ids at all. -/
def Row.Foldable (product : Int) (rows : List Row) : Prop :=
  ∀ id ∈ furtherIds product rows, ∃ first, (combined rows product).id = some first ∧ id ≠ first

variable {ctx : Context} {c : Cart} {s last : Step} {log : List Answered} {result : Result}
variable {product : Int} {shown : Option Line} {call : Call} {p : Payload}

/-! ## Runs -/

theorem Runs.of_not_calling (h : Runs ctx s log last)
    (hs : ∀ call point, s.progress ≠ .calling call point) : log = [] ∧ last = s := by
  cases h with
  | rest => exact ⟨rfl, rfl⟩
  | reply _ hcall _ => exact absurd hcall (hs _ _)

/-- The journal of a step has no part in what comes after it. -/
theorem Runs.of_after {entries : Journal} (h : Runs ctx (s.after entries) log last) :
    ∃ last', Runs ctx s log last' ∧ last'.progress = last.progress ∧ last'.state = last.state := by
  cases h with
  | rest => exact ⟨s, .rest s, rfl, rfl⟩
  | reply reply hcall hrest => exact ⟨last, .reply reply hcall hrest, rfl, rfl⟩

theorem Runs.of_finished (h : Runs ctx s log last) (hs : s.progress = .finished result) :
    log = [] ∧ last = s := by
  refine h.of_not_calling fun call point he => ?_
  cases hs.symm.trans he

theorem Runs.of_calling {point : Point} (h : Runs ctx s log last)
    (hs : s.progress = .calling call point) (hend : last.progress = .finished result) :
    ∃ reply rest, log = ⟨call, point, reply⟩ :: rest ∧
      Runs ctx (resume ctx s.state point reply) rest last := by
  cases h with
  | rest => cases hs.symm.trans hend
  | reply reply hcall hrest =>
    cases hs.symm.trans hcall
    exact ⟨reply, _, rfl, hrest⟩

theorem not_runs_of_stopped {fault : Fault} (h : Runs ctx s log last)
    (hs : s.progress = .stopped fault) : last.progress ≠ .finished result := by
  intro hend
  obtain ⟨_, rfl⟩ := h.of_not_calling fun call point he => by cases hs.symm.trans he
  cases hs.symm.trans hend

/-- The cart is loaded, and the operation then ends in one way, however the load has gone. -/
theorem Runs.of_loading {next : Next} (h : Runs ctx s log last)
    (hs : s.progress = .calling .getCart (.loading next))
    (hnext : ∀ c, (proceed ctx c next).progress = .finished result) :
    (∀ a ∈ log, a.Loads) ∧
      ∀ other, last.progress = .finished other → other = result := by
  cases h with
  | rest =>
    refine ⟨fun _ ha => (nomatch ha), fun other hend => ?_⟩
    cases hs.symm.trans hend
  | reply reply hcall hrest =>
    cases hs.symm.trans hcall
    have single : ∀ a ∈ [(⟨.getCart, .loading next, reply⟩ : Answered)], a.Loads := by
      intro a ha
      cases List.mem_singleton.mp ha
      exact ⟨rfl, next, rfl⟩
    cases reply with
    | value p =>
      obtain ⟨rfl, rfl⟩ := hrest.of_finished (hnext _)
      refine ⟨single, fun other hend => ?_⟩
      cases (hnext _).symm.trans hend
      rfl
    | failure f =>
      obtain ⟨rfl, rfl⟩ := hrest.of_finished (hnext _)
      refine ⟨single, fun other hend => ?_⟩
      cases (hnext _).symm.trans hend
      rfl
    | fault fault =>
      obtain ⟨rfl, rfl⟩ := hrest.of_not_calling fun _ _ he => nomatch he
      exact ⟨single, fun other hend => by cases hend⟩

/-! ## Changes that go through -/

theorem Settles.ends (h : Settles ctx c product shown p s) :
    s.progress = .finished (.done true) ∨ s.progress = .calling .getCart (.loading .succeed) := by
  induction h with
  | snapshot _ => exact .inl rfl
  | line _ _ _ => exact .inl rfl
  | unnamed _ _ _ =>
    unfold reload
    split
    · exact .inr rfl
    · exact .inl rfl
  | after _ _ ih => exact ih

theorem runs_settle (h : Runs ctx (settle ctx c product shown p) log last) :
    ∀ a ∈ log, a.Loads := by
  rcases (settle_settles product shown p).ends with hs | hs
  · obtain ⟨rfl, _⟩ := h.of_finished hs
    exact fun _ ha => nomatch ha
  · exact (h.of_loading hs fun _ => rfl).1

/-- A change that has failed does not succeed any more. -/
theorem not_runs_revert {folding : Bool} {f : Failure}
    (h : Runs ctx (revert ctx c product folding f) log last) :
    last.progress ≠ .finished (.done true) := by
  intro hend
  cases folding with
  | false =>
    have hs : (revert ctx c product false f).progress = .finished (.done false) := rfl
    obtain ⟨_, rfl⟩ := h.of_finished hs
    cases hend
  | true =>
    by_cases hauth : ctx.authenticated = true
    · have hs : (revert ctx c product true f).progress =
          .calling .getCart (.loading (.fail (f.userMessage updateFailed))) := by
        simp [revert, reload, hauth, Shopfront.Step.call]
      have hnext : ∀ c, (proceed ctx c (.fail (f.userMessage updateFailed))).progress =
          .finished (.done false) := fun _ => rfl
      cases (h.of_loading hs hnext).2 _ hend
    · have hs : (revert ctx c product true f).progress = .finished (.done false) := by
        simp [revert, reload, hauth, proceed, Shopfront.Step.finish]
      obtain ⟨_, rfl⟩ := h.of_finished hs
      cases hs.symm.trans hend

theorem settledOn?_cons {a : Answered} (h : a.confirmed? = some p) :
    settledOn? (a :: log) = some ((settledOn? log).getD p) := by
  rw [settledOn?, List.filterMap_cons_some h, List.getLast?_cons, settledOn?]

/-- Further lines are deleted in their order, and then the change is settled on the last reply. -/
theorem runs_foldNext {rest : List Reference}
    (h : Runs ctx (foldNext ctx c product shown p rest) log last)
    (hend : last.progress = .finished (.done true)) :
    ∃ sent deleted loads, log = deleted ++ loads ∧ List.Forall₂ Answered.Deletes deleted rest ∧
      Runs ctx (settle ctx sent product shown ((settledOn? deleted).getD p)) loads last := by
  induction rest generalizing c p log with
  | nil => exact ⟨_, [], log, rfl, .nil, h⟩
  | cons id rest ih =>
    obtain ⟨reply, more, rfl, hmore⟩ := h.of_calling rfl hend
    cases reply with
    | value p' =>
      obtain ⟨sent, deleted, loads, rfl, hdeleted, hsettle⟩ := ih hmore
      refine ⟨sent, _ :: deleted, loads, rfl, .cons ⟨rfl, product, shown, rest, rfl⟩ hdeleted, ?_⟩
      rw [settledOn?_cons (p := p') rfl]
      exact hsettle
    | failure f => exact absurd hend (not_runs_revert hmore)
    | fault fault => exact absurd hend (not_runs_of_stopped hmore rfl)

theorem runs_send_settled (h : Runs ctx (send c product shown call) log last)
    (hend : last.progress = .finished (.done true)) :
    ∃ sent folding p deleted loads,
      log = ⟨call, .sending product shown folding, .value p⟩ :: (deleted ++ loads) ∧
      List.Forall₂ Answered.Deletes deleted (foldedIds product c.folded) ∧
      Runs ctx (settle ctx sent product shown ((settledOn? deleted).getD p)) loads last := by
  obtain ⟨reply, more, rfl, hmore⟩ := h.of_calling rfl hend
  cases reply with
  | failure f => exact absurd hend (not_runs_revert hmore)
  | fault fault => exact absurd hend (not_runs_of_stopped hmore rfl)
  | value p =>
    cases hids : foldedIds product c.folded with
    | nil =>
      simp only [resume, send, Shopfront.Step.call, hids, List.isEmpty_nil, Bool.not_true,
        Bool.false_eq_true, if_false] at hmore
      exact ⟨_, _, p, [], more, rfl, .nil, hmore⟩
    | cons id rest =>
      simp only [resume, send, Shopfront.Step.call, hids, List.isEmpty_cons, Bool.not_false,
        if_true] at hmore
      obtain ⟨sent, deleted, loads, rfl, hdeleted, hsettle⟩ := runs_foldNext hmore hend
      exact ⟨sent, _, p, deleted, loads, rfl, hdeleted, hsettle⟩

theorem runs_send (h : Runs ctx (send c product shown call) log last)
    (hend : last.progress = .finished (.done true)) :
    GoesThrough call (foldedIds product c.folded) log := by
  obtain ⟨_, _, _, _, _, rfl, hdeleted, hsettle⟩ := runs_send_settled h hend
  exact .mk hdeleted (runs_settle hsettle)

/-- Each of the ids is deleted, and nothing else is. -/
theorem exists_of_deletes {deleted : List Answered} {ids : List Reference}
    (h : List.Forall₂ Answered.Deletes deleted ids) :
    (∀ id ∈ ids, ∃ a ∈ deleted, a.Deletes id) ∧ ∀ a ∈ deleted, ∃ id ∈ ids, a.Deletes id := by
  induction h with
  | nil => simp
  | cons hd _ ih =>
    obtain ⟨hids, hdeleted⟩ := ih
    constructor
    · intro id hid
      rcases List.mem_cons.mp hid with rfl | hid
      · exact ⟨_, List.mem_cons_self, hd⟩
      · obtain ⟨a, ha, hdel⟩ := hids id hid
        exact ⟨a, List.mem_cons_of_mem _ ha, hdel⟩
    · intro a ha
      rcases List.mem_cons.mp ha with rfl | ha
      · exact ⟨_, List.mem_cons_self, hd⟩
      · obtain ⟨id, hid, hdel⟩ := hdeleted a ha
        exact ⟨id, List.mem_cons_of_mem _ hid, hdel⟩

/-- The change comes before whatever is deleted after it. -/
theorem mem_of_append_cons_eq {α : Type} {P : α → Prop} {first before after later : List α} {x a : α}
    (h : first ++ x :: later = before ++ a :: after) (hfirst : ∀ y ∈ first, ¬P y) (hx : ¬P x)
    (ha : P a) : x ∈ before ∧ a ∈ later := by
  rcases List.append_eq_append_iff.mp h with ⟨between, rfl, hrest⟩ | ⟨between, rfl, hrest⟩
  · cases between with
    | nil =>
      cases hrest
      exact absurd ha hx
    | cons y between =>
      obtain ⟨rfl, rfl⟩ := List.cons.inj hrest
      exact ⟨by simp, by simp⟩
  · cases between with
    | nil =>
      cases hrest
      exact absurd ha hx
    | cons y between =>
      obtain ⟨rfl, _⟩ := List.cons.inj hrest
      exact absurd ha (hfirst a (by simp))

/-- A change that goes through is safe exactly if it puts the quantity on a line that is not among
those to be deleted. -/
theorem GoesThrough.foldsSafely_iff {ids : List Reference} {loads : List Answered}
    (h : GoesThrough call ids log) (hloads : ∀ a ∈ loads, a.Loads) (first : Option Reference)
    (quantity : Int) : FoldsSafely first quantity (loads ++ log) ↔
      ∀ id ∈ ids, ∃ line, first = some line ∧ call = .updateCartLine line.payload quantity ∧
        id ≠ line := by
  obtain @⟨shownProduct, shown, folding, p, deleted, last, hdeleted, hlast⟩ := h
  obtain ⟨hids, honly⟩ := exists_of_deletes hdeleted
  constructor
  · intro hsafe id hid
    obtain ⟨d, hd, hdel⟩ := hids id hid
    obtain ⟨earlier, later, rfl⟩ := List.append_of_mem hd
    obtain ⟨line, b, hfirst, hb, hputs, hne⟩ := hsafe
      (loads ++ ⟨call, .sending shownProduct shown folding, .value p⟩ :: earlier) d (later ++ last) id
      (by simp) hdel
    refine ⟨line, hfirst, ?_, hne⟩
    rcases List.mem_append.mp hb with hb | hb
    · exact absurd hputs (hloads b hb).not_puts
    rcases List.mem_cons.mp hb with rfl | hb
    · exact hputs.call
    · obtain ⟨id', _, hdel'⟩ := honly b (List.mem_append_left _ hb)
      exact absurd hputs hdel'.not_puts
  · intro hall before a after id heq hdel
    have hsent : ¬Answered.Deletes ⟨call, .sending shownProduct shown folding, .value p⟩ id := by
      rintro ⟨_, _, _, _, he⟩
      cases he
    obtain ⟨hbefore, ha⟩ := mem_of_append_cons_eq (P := fun x => x.Deletes id) heq
      (fun x hx => (hloads x hx).not_deletes) hsent hdel
    rcases List.mem_append.mp ha with ha | ha
    · obtain ⟨id', hid', hdel'⟩ := honly a ha
      cases hdel.eq hdel'
      obtain ⟨line, hfirst, hcall, hne⟩ := hall id hid'
      exact ⟨line, _, hfirst, hbefore, ⟨hcall, p, rfl⟩, hne⟩
    · exact absurd hdel (hlast a ha).not_deletes

/-! ## Loaded carts -/

variable {rows : List Row} {line : Line}

theorem one_le_of_mem_reportedRows {reports : List Report} :
    ∀ r ∈ reportedRows reports, 1 ≤ r.quantity := by
  intro r hr
  obtain ⟨report, hreport, rfl⟩ := List.mem_map.mp hr
  have hq := (List.mem_filter.mp hreport).2
  simpa [Report.row] using hq

/-! ## One operation -/

theorem Runs.source_eq (h : Runs ctx s log last)
    (hs : ∀ call q, s.progress ≠ .calling call (.loading (.decrease q))) (p : Payload) :
    source p log = p := by
  cases h with
  | rest => rfl
  | @reply _ call point _ _ reply hcall _ =>
    unfold source
    split
    · next heq =>
      cases (List.cons.inj heq).1
      exact absurd hcall (hs _ _)
    · rfl

theorem source_send (h : Runs ctx (send c product shown call) log last) (p : Payload) :
    source p log = p := h.source_eq (fun _ _ he => nomatch he) p

/-- A removal does not go on to a decrease. -/
theorem remove_progress_ne (call : Call) (q : Int) :
    (remove ctx c product).progress ≠ .calling call (.loading (.decrease q)) := by
  intro he
  unfold remove at he
  split at he
  · cases he
  · split at he
    · cases he
    · unfold reload at he
      split at he
      · cases he
      · simp only [proceed] at he
        split at he <;> cases he

/-- More or less of a product with a first line that has an id. -/
theorem Shows.foldsSafely_put (h : Shows c rows) {loads : List Answered} {id : Reference}
    {quantity : Int} (hrow : line.row = Row.combined rows product) (hid : line.id = some id)
    (hgo : GoesThrough (.updateCartLine id.payload quantity) (foldedIds product c.folded) log)
    (hloads : ∀ a ∈ loads, a.Loads) :
    FoldsSafely (Row.combined rows product).id quantity (loads ++ log) ↔
      Row.Foldable product rows := by
  have hfirst : (Row.combined rows product).id = some id := by rw [← hrow, ← hid]; rfl
  rw [hgo.foldsSafely_iff hloads, h.folded, Row.Foldable, hfirst]
  refine forall₂_congr fun further _ => exists_congr fun first => and_congr_right fun he => ?_
  cases he
  exact and_iff_right rfl

theorem Shows.foldsSafely_increase (h : Shows c rows)
    (hruns : Runs ctx (increase ctx c product) log last)
    (hend : last.progress = .finished (.done true)) (p : Payload) :
    source p log = p ∧
      (FoldsSafely (Row.combined rows product).id (Row.total product rows + 1) log ↔
        Row.Foldable product rows) := by
  rcases h.lineOfRows? product with ⟨hline, hnone⟩ | ⟨line, hline, hrow, _⟩
  · simp only [increase, hline] at hruns
    obtain ⟨last', hsend, he, _⟩ := hruns.of_after
    have hgo := runs_send hsend (he.trans hend)
    refine ⟨source_send hsend p, ?_⟩
    have hsafe := hgo.foldsSafely_iff Answered.loads_nil
    rw [List.nil_append] at hsafe
    rw [hsafe, h.folded, Row.Foldable, Row.furtherIds, hnone]
    simp
  · cases hid : line.id with
    | none =>
      simp only [increase, hline, hid] at hruns
      have hgo := runs_send hruns hend
      refine ⟨source_send hruns p, ?_⟩
      have hfirst : (Row.combined rows product).id = none := by rw [← hrow, ← hid]; rfl
      have hsafe := hgo.foldsSafely_iff Answered.loads_nil
      rw [List.nil_append] at hsafe
      rw [hsafe, h.folded, Row.Foldable, hfirst]
      simp
    | some id =>
      have hq : line.quantity = Row.total product rows := congrArg Row.quantity hrow
      simp only [increase, hline, hid, hq] at hruns
      have hgo := runs_send hruns hend
      exact ⟨source_send hruns p,
        h.foldsSafely_put hrow hid hgo Answered.loads_nil⟩

/-- Less of a product with a first line that has an id, after the loads that have come before. -/
theorem Shows.foldsSafely_decreaseKnown (h : Shows c rows) {loads : List Answered} {id : Reference}
    (hrows : ∀ r ∈ rows, 1 ≤ r.quantity) (hsome : Row.ofProduct product rows ≠ [])
    (hrow : line.row = Row.combined rows product) (hid : line.id = some id)
    (hruns : Runs ctx (decreaseKnown ctx c product line id) log last)
    (hend : last.progress = .finished (.done true)) (hmany : Row.total product rows ≠ 1)
    (hloads : ∀ a ∈ loads, a.Loads) :
    (∀ p, source p log = p) ∧
      (FoldsSafely (Row.combined rows product).id (Row.total product rows - 1) (loads ++ log) ↔
        Row.Foldable product rows) := by
  have hq : line.quantity = Row.total product rows := congrArg Row.quantity hrow
  have hpos := Row.one_le_total hrows hsome
  rw [decreaseKnown, if_neg (by omega), hq] at hruns
  have hgo := runs_send hruns hend
  exact ⟨source_send hruns, h.foldsSafely_put hrow hid hgo hloads⟩

/-- A decrease that has loaded the cart for want of an id. -/
theorem Shows.foldsSafely_proceed (h : Shows c rows) {loads : List Answered}
    (hrows : ∀ r ∈ rows, 1 ≤ r.quantity)
    (hruns : Runs ctx (proceed ctx c (.decrease product)) log last)
    (hend : last.progress = .finished (.done true)) (hmany : Row.total product rows ≠ 1)
    (hloads : ∀ a ∈ loads, a.Loads) :
    FoldsSafely (Row.combined rows product).id (Row.total product rows - 1) (loads ++ log) ↔
      Row.Foldable product rows := by
  rcases h.lineOfRows? product with ⟨hline, _⟩ | ⟨line, hline, hrow, hsome⟩
  · simp only [proceed, hline] at hruns
    obtain ⟨_, rfl⟩ := hruns.of_finished rfl
    cases hend
  cases hid : line.id with
  | none =>
    simp only [proceed, hline, hid] at hruns
    obtain ⟨_, rfl⟩ := hruns.of_finished rfl
    cases hend
  | some id =>
    simp only [proceed, hline, hid] at hruns
    exact (h.foldsSafely_decreaseKnown hrows hsome hrow hid hruns hend hmany hloads).2

theorem Shows.foldsSafely_decrease {before : Payload}
    (h : Shows c (reportedRows (Report.listOf before))) (hauth : ctx.authenticated = true)
    (hruns : Runs ctx (decrease ctx c product) log last)
    (hend : last.progress = .finished (.done true)) :
    let rows := reportedRows (Report.listOf (source before log))
    Row.total product rows ≠ 1 →
      (FoldsSafely (Row.combined rows product).id (Row.total product rows - 1) log ↔
        Row.Foldable product rows) := by
  intro rows hmany
  rcases h.lineOfRows? product with ⟨hline, _⟩ | ⟨line, hline, hrow, hsome⟩
  · simp only [decrease, hline] at hruns
    obtain ⟨_, rfl⟩ := hruns.of_finished rfl
    cases hend
  have hq : line.quantity = Row.total product (reportedRows (Report.listOf before)) :=
    congrArg Row.quantity hrow
  have hpos := Row.one_le_total one_le_of_mem_reportedRows hsome
  by_cases hlast : line.quantity ≤ 1
  · have hsource : source before log = before := by
      simp only [decrease, hline, if_pos hlast] at hruns
      exact hruns.source_eq remove_progress_ne before
    have hone : Row.total product rows = 1 := by
      simp only [rows, hsource]
      omega
    exact absurd hone hmany
  cases hid : line.id with
  | some id =>
    simp only [decrease, hline, if_neg hlast, hid] at hruns
    obtain ⟨hsource, hsafe⟩ := h.foldsSafely_decreaseKnown one_le_of_mem_reportedRows hsome hrow hid
      hruns hend (by omega) Answered.loads_nil
    have hrows : rows = reportedRows (Report.listOf before) := by simp only [rows, hsource]
    rw [hrows]
    exact hsafe
  | none =>
    simp only [decrease, hline, if_neg hlast, hid, reload, hauth, if_true] at hruns
    obtain ⟨reply, more, rfl, hmore⟩ := hruns.of_calling rfl hend
    cases reply with
    | fault fault => exact absurd hend (not_runs_of_stopped hmore rfl)
    | failure f =>
      have hstuck : (resume ctx { c with pending := c.pending + 1 } (.loading (.decrease product))
          (.failure f)).progress = .finished (.done false) := by
        simp [resume, proceed, release, hline, hid, Shopfront.Step.finish]
      obtain ⟨_, rfl⟩ := hmore.of_finished hstuck
      cases hstuck.symm.trans hend
    | value p =>
      obtain ⟨last', hproceed, he, _⟩ := Runs.of_after hmore
      have hload : ∀ a ∈ [(⟨.getCart, .loading (.decrease product), .value p⟩ : Answered)],
          a.Loads := by
        intro a ha
        cases List.mem_singleton.mp ha
        exact ⟨rfl, _, rfl⟩
      exact (shows_loaded_payload ctx _ p).foldsSafely_proceed one_le_of_mem_reportedRows hproceed
        (he.trans hend) hmany hload

/-- **Folding puts before it deletes.** Load any payload into a cart, and let one more or one less of a
product then run on its own and succeed. Unless it is the removal of the last one, each further line
of the product is deleted after the quantity of all, plus or minus one, has been put on another line,
exactly if the product's first line has an id which no further line repeats, or no further line has
any. What counts are the lines that the operation works with: a decrease loads them again for want of
an id. -/
theorem folds_safely_iff (ctx : Context) (c : Cart) (before : Payload) {request : Request}
    {product : Int} {log : List Answered} {last : Step}
    (hchange : ∃ id, request = .increase id ∨ request = .decrease id)
    (hasked : request.product? = some product)
    (hruns : Runs ctx (begin ctx (loaded ctx c before) request) log last)
    (hend : last.progress = .finished (.done true)) :
    let rows := reportedRows (Report.listOf (source before log))
    (∀ id, request = .decrease id → Row.total product rows ≠ 1) →
      (FoldsSafely (Row.combined rows product).id (request.wanted (Row.total product rows)) log ↔
        Row.Foldable product rows) := by
  intro rows hmany
  have hshows := shows_loaded_payload ctx c before
  by_cases hauth : ctx.authenticated = true
  · obtain ⟨id, rfl | rfl⟩ := hchange
    · have hid : id.id? = some product := hasked
      simp only [begin, gated, gate, hauth, hid, if_true] at hruns
      obtain ⟨hsource, hsafe⟩ := hshows.foldsSafely_increase hruns hend before
      simp only [rows, hsource]
      exact hsafe
    · have hid : id.id? = some product := hasked
      simp only [begin, gated, gate, hauth, hid, if_true] at hruns
      exact hshows.foldsSafely_decrease hauth hruns hend (hmany id rfl)
  · have hrefused : (begin ctx (loaded ctx c before) request).progress = .finished (.done false) := by
      obtain ⟨id, rfl | rfl⟩ := hchange <;>
        simp [begin, gated, gate, hauth, Shopfront.Step.finish]
    obtain ⟨_, rfl⟩ := hruns.of_finished hrefused
    cases hrefused.symm.trans hend

/-- Two lines with ids: the quantity of both is put on the first, and then the second is deleted. -/
theorem folds_safely_two_lines :
    let row : Int → Int → Payload := fun id quantity =>
      .object [("id", .int id), ("sneaker_id", .int 7), ("quantity", .int quantity)]
    let before : Payload := .list [row 1 2, row 2 3]
    let first := begin ⟨true, .empty⟩ (loaded ⟨true, .empty⟩ .empty before) (.increase (.int 7))
    let shown : Line := ⟨some (.number 1), 7, 6, .zero⟩
    let put : Answered :=
      ⟨.updateCartLine (.int 1) 6, .sending 7 (some shown) true, .value .null⟩
    let deleted : Answered :=
      ⟨.removeCartLine (.int 2), .folding 7 (some shown) [], .value .null⟩
    ∃ last, Runs ⟨true, .empty⟩ first [put, deleted] last ∧
      last.progress = .finished (.done true) ∧
      FoldsSafely (some (.number 1)) 6 [put, deleted] := by
  intro row before first shown put deleted
  let folding := resume ⟨true, .empty⟩ first.state put.point put.reply
  let last := resume ⟨true, .empty⟩ folding.state deleted.point deleted.reply
  have hfirst : first.progress = .calling put.call put.point := by rfl
  have hfolding : folding.progress = .calling deleted.call deleted.point := by rfl
  have hruns : Runs ⟨true, .empty⟩ first [put, deleted] last :=
    .reply _ hfirst (.reply _ hfolding (.rest last))
  have hend : last.progress = .finished (.done true) := by rfl
  have hfoldable : Row.Foldable 7 (reportedRows (Report.listOf before)) := by
    intro id hid
    have hids : Row.furtherIds 7 (reportedRows (Report.listOf before)) = [.number 2] := by
      decide +kernel
    rw [hids] at hid
    cases List.mem_singleton.mp hid
    exact ⟨.number 1, by decide +kernel, by decide⟩
  refine ⟨last, hruns, hend, ?_⟩
  exact (folds_safely_iff ⟨true, .empty⟩ .empty before ⟨.int 7, .inl rfl⟩ rfl hruns hend nofun).mpr
    hfoldable

/-- A first line without an id is added to, and the further line is deleted with what it held. -/
theorem deleted_after_add :
    let before : Payload := .list
      [.object [("sneaker_id", .int 7), ("quantity", .int 2)],
        .object [("id", .int 5), ("sneaker_id", .int 7), ("quantity", .int 3)]]
    let first := begin ⟨true, .empty⟩ (loaded ⟨true, .empty⟩ .empty before) (.increase (.int 7))
    let shown : Line := ⟨none, 7, 6, .zero⟩
    let reply : Payload := .object [("id", .int 9)]
    let added : Answered := ⟨.addToCart 7 1, .sending 7 (some shown) true, .value reply⟩
    let deleted : Answered :=
      ⟨.removeCartLine (.int 5), .folding 7 (some shown) [], .value reply⟩
    ∃ last, Runs ⟨true, .empty⟩ first [added, deleted] last ∧
      last.progress = .finished (.done true) ∧
      ∀ line quantity, ¬FoldsSafely line quantity [added, deleted] := by
  intro before first shown reply added deleted
  let folding := resume ⟨true, .empty⟩ first.state added.point added.reply
  let last := resume ⟨true, .empty⟩ folding.state deleted.point deleted.reply
  have hfirst : first.progress = .calling added.call added.point := by rfl
  have hfolding : folding.progress = .calling deleted.call deleted.point := by rfl
  have hend : last.progress = .finished (.done true) := by rfl
  refine ⟨last, .reply _ hfirst (.reply _ hfolding (.rest last)), hend, fun line quantity hsafe => ?_⟩
  obtain ⟨_, b, _, hb, hputs, _⟩ :=
    hsafe [added] deleted [] (.number 5) rfl ⟨rfl, 7, some shown, [], rfl⟩
  cases List.mem_singleton.mp hb
  cases hputs.call

end Shopfront.Cart
