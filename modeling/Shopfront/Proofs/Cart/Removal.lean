import Shopfront.Proofs.Cart.Folding
import Shopfront.Proofs.Cart.Merging

/-! What a confirmed removal leaves. A removal is settled on the last reply that has confirmed it, or
the deletion of a further line, and a reply that reports a line of the product is taken for the
product's line. Main statement: unless the reply is the whole cart, the product is gone from the
lines and from the confirmed lines exactly if the reply does not bring it back
(`listed_after_removal_iff`); a service that answers with the line that it has deleted brings the line
back (`echo_brings_back`). -/

namespace Shopfront.Cart

/-- A request for a product to be gone, whose line is given. -/
inductive Request.Removes (product : Int) (line : Line) : Request → Prop
  | remove {payload} : payload.id? = some product → Removes product line (.remove payload)
  | decrease {payload} : payload.id? = some product → line.quantity ≤ 1 →
      Removes product line (.decrease payload)

namespace Answered

/-- The payload that the cart has been loaded from. -/
def loaded? : Answered → Option Payload
  | ⟨_, .loading _, .value p⟩ => some p
  | _ => none

theorem Loads.confirmed?_eq_none {a : Answered} (h : a.Loads) : a.confirmed? = none := by
  obtain ⟨call, point, reply⟩ := a
  obtain ⟨_, next, rfl⟩ := h
  rfl

theorem Deletes.loaded?_eq_none {a : Answered} {id : Reference} (h : a.Deletes id) :
    a.loaded? = none := by
  obtain ⟨call, point, reply⟩ := a
  obtain ⟨_, _, _, _, rfl⟩ := h
  rfl

end Answered

/-- The payload that the cart has been loaded from at last. -/
def loadedFrom? (log : List Answered) : Option Payload :=
  (log.filterMap Answered.loaded?).getLast?

/-- The reply to a removal brings the product back: it reports a line of it, and if this has no id, the
cart that is loaded for one lists the product, or does not load. -/
def BringsBack (product : Int) (p : Payload) (log : List Answered) : Prop :=
  ∃ r, Report.ofPayload? p = some r ∧ r.product = product ∧ 1 ≤ r.quantity ∧
    (r.id = none → ∀ q, loadedFrom? log = some q → listsLine product q = true)

variable {ctx : Context} {c : Cart} {last : Step} {log : List Answered}
variable {product : Int} {shown : Option Line} {line : Line} {p : Payload} {request : Request}

/-! ## Replies -/

/-- What is loaded at the end is not settled on. -/
theorem settledOn?_append {loads : List Answered} (h : ∀ a ∈ loads, a.Loads) :
    settledOn? (log ++ loads) = settledOn? log := by
  have hnone : loads.filterMap Answered.confirmed? = [] :=
    List.filterMap_eq_nil_iff.mpr fun a ha => (h a ha).confirmed?_eq_none
  rw [settledOn?, List.filterMap_append, hnone, List.append_nil, settledOn?]

theorem loadedFrom?_append {loads : List Answered} (h : ∀ a ∈ log, a.loaded? = none) :
    loadedFrom? (log ++ loads) = loadedFrom? loads := by
  rw [loadedFrom?, List.filterMap_append, List.filterMap_eq_nil_iff.mpr h, List.nil_append,
    loadedFrom?]

/-! ## Lines -/

theorem mem_products_iff {lines : List Line} :
    product ∈ lines.map (·.product) ↔ (lineOf? product lines).isSome = true := by
  simp [lineOf?, List.find?_isSome]

/-- A removal is settled on the line of the product that the reply reports. -/
theorem settledLine_none_eq_some_iff : settledLine ctx c product none p = some line ↔
    ∃ r, Report.ofPayload? p = some r ∧ r.product = product ∧ 1 ≤ r.quantity ∧
      line = ⟨r.id, product, r.quantity, priceFor ctx.catalog c.lines product r.price⟩ := by
  unfold settledLine
  cases hr : Report.ofPayload? p with
  | none => simp [acknowledge]
  | some r =>
    by_cases hproduct : r.product = product
    · subst hproduct
      by_cases hq : r.quantity < 1
      · simp [lineFromReport, hq, Int.not_le.mpr hq]
      · simp [lineFromReport, hq, Int.not_lt.mp hq, eq_comm]
    · simp [hproduct, acknowledge]

/-- The lines and the confirmed lines have one of the product exactly if the statement holds. -/
structure ListedIff (product : Int) (c : Cart) (P : Prop) : Prop where
  lines : product ∈ c.lines.map (·.product) ↔ P
  confirmed : product ∈ c.confirmed.map (·.product) ↔ P

theorem ListedIff.congr {P Q : Prop} (h : ListedIff product c P) (hiff : P ↔ Q) :
    ListedIff product c Q := ⟨h.lines.trans hiff, h.confirmed.trans hiff⟩

theorem listedIff_settleOn (hshown : ∀ l ∈ shown, l.product = product) :
    ListedIff product (settleOn c product shown) (shown.isSome = true) := by
  have hput : ∀ lines, product ∈ (withLine product shown lines).map (·.product) ↔
      shown.isSome = true := by
    intro lines
    rw [mem_products_iff, lineOf?_withLine hshown, if_pos rfl]
  exact ⟨hput c.lines, hput c.confirmed⟩

theorem listedIff_loaded (p : Payload) :
    ListedIff product (loaded ctx c p) (listsLine product p = true) :=
  ⟨mem_products_applySnapshot, mem_products_applySnapshot⟩

/-! ## Removals -/

/-- Where the line has no id the cart is loaded, and a load that fails leaves the line. -/
theorem runs_reload_succeed (hauth : ctx.authenticated = true)
    (h : Runs ctx (reload ctx c .succeed) log last)
    (hend : last.progress = .finished (.done true)) (hlisted : ListedIff product c True) :
    ListedIff product last.state (∀ q, loadedFrom? log = some q → listsLine product q = true) := by
  rw [reload, if_pos hauth] at h
  obtain ⟨reply, more, rfl, hmore⟩ := h.of_calling rfl hend
  cases reply with
  | fault fault => exact absurd hend (not_runs_of_stopped hmore rfl)
  | failure f =>
    obtain ⟨rfl, rfl⟩ := hmore.of_finished rfl
    have hnone : True ↔ ∀ q, loadedFrom? [⟨.getCart, .loading .succeed, .failure f⟩] = some q →
        listsLine product q = true := iff_of_true trivial fun q hq => by cases hq
    exact ⟨hlisted.lines.trans hnone, hlisted.confirmed.trans hnone⟩
  | value q =>
    obtain ⟨rfl, rfl⟩ := hmore.of_finished rfl
    refine (listedIff_loaded q).congr ⟨fun hlists q' hq' => ?_, fun hall => hall q rfl⟩
    cases hq'
    exact hlists

theorem runs_settle_removed (hauth : ctx.authenticated = true)
    (h : Runs ctx (settle ctx c product none p) log last)
    (hend : last.progress = .finished (.done true)) (hp : isSnapshot p = false) :
    ListedIff product last.state (BringsBack product p log) := by
  have hfits : ∀ l ∈ settledLine ctx c product none p, l.product = product :=
    product_eq_settledLine fun _ hl => nomatch hl
  cases hline : settledLine ctx c product none p with
  | none =>
    rw [settle_of_not_snapshot hp hline] at h
    obtain ⟨rfl, rfl⟩ := h.of_finished rfl
    rw [hline] at hfits
    refine (listedIff_settleOn hfits).congr (iff_of_false Bool.false_ne_true ?_)
    rintro ⟨r, hr, hproduct, hq, _⟩
    cases hline.symm.trans (settledLine_none_eq_some_iff.mpr ⟨r, hr, hproduct, hq, rfl⟩)
  | some line =>
    obtain ⟨r, hr, hproduct, hq, rfl⟩ := settledLine_none_eq_some_iff.mp hline
    rw [settle_of_not_snapshot hp hline] at h
    rw [hline] at hfits
    cases hid : r.id with
    | some id =>
      rw [if_neg (by simp [hid])] at h
      obtain ⟨rfl, rfl⟩ := h.of_finished rfl
      refine (listedIff_settleOn hfits).congr (iff_of_true rfl ⟨r, hr, hproduct, hq, fun hnone => ?_⟩)
      cases hid.symm.trans hnone
    | none =>
      rw [if_pos (by simp [hid])] at h
      obtain ⟨last', hreload, hprogress, hstate⟩ := h.of_after
      have hlisted := runs_reload_succeed hauth hreload (hprogress.trans hend)
        ((listedIff_settleOn hfits).congr (iff_true_intro rfl))
      rw [← hstate]
      refine hlisted.congr ⟨fun hall => ⟨r, hr, hproduct, hq, fun _ => hall⟩, ?_⟩
      rintro ⟨r', hr', _, _, hall⟩
      cases hr.symm.trans hr'
      exact hall hid

theorem Request.Removes.begin_eq (hrequest : request.Removes product line)
    (hauth : ctx.authenticated = true) (hline : lineOf? product c.lines = some line)
    {id : Reference} (hid : line.id = some id) :
    begin ctx c request = send c product none (.removeCartLine id.payload) := by
  have hremove : Cart.remove ctx c product = send c product none (.removeCartLine id.payload) := by
    simp only [Cart.remove, hline, hid]
  cases hrequest with
  | remove hproduct =>
    simp only [begin, gated, gate, hauth, hproduct, if_true]
    exact hremove
  | decrease hproduct hone =>
    simp only [begin, gated, gate, hauth, hproduct, if_true, Cart.decrease, hline, if_pos hone]
    exact hremove

theorem Request.Removes.refused (hrequest : request.Removes product line)
    (hauth : ctx.authenticated ≠ true) :
    (begin ctx c request).progress = .finished (.done false) := by
  cases hrequest with
  | remove hproduct | decrease hproduct hone =>
    simp [begin, gated, gate, hauth, Shopfront.Step.finish]

/-- **What a confirmed removal leaves.** Let a product's line have an id, let the product be removed,
or the last of it be taken away, and let the operation run on its own and succeed on a reply that is
not the whole cart. Then the product is still in the lines, and in the confirmed lines, exactly if
that reply reports a line of it with at least one piece, which has an id, or else is listed in the cart
that is loaded for want of an id, or this fails to load. -/
theorem listed_after_removal_iff (hline : lineOf? product c.lines = some line) (hid : line.id ≠ none)
    (hrequest : request.Removes product line) (hruns : Runs ctx (begin ctx c request) log last)
    (hend : last.progress = .finished (.done true)) (hsettled : settledOn? log = some p)
    (hp : isSnapshot p = false) :
    ListedIff product last.state (BringsBack product p log) := by
  obtain ⟨id, hid⟩ := Option.ne_none_iff_exists'.mp hid
  by_cases hauth : ctx.authenticated = true
  · rw [hrequest.begin_eq hauth hline hid] at hruns
    obtain ⟨sent, folding, q, deleted, loads, rfl, hdeleted, hsettle⟩ := runs_send_settled hruns hend
    rw [settledOn?_cons (p := q) rfl, settledOn?_append (runs_settle hsettle)] at hsettled
    rw [Option.some.inj hsettled] at hsettle
    have hapart : ∀ a ∈ deleted, a.loaded? = none := by
      intro a ha
      obtain ⟨_, _, hdeletes⟩ := (exists_of_deletes hdeleted).2 a ha
      exact hdeletes.loaded?_eq_none
    have hloads : loadedFrom? (⟨.removeCartLine id.payload, .sending product none folding, .value q⟩ ::
        (deleted ++ loads)) = loadedFrom? loads := loadedFrom?_append hapart
    rw [BringsBack, hloads]
    exact runs_settle_removed hauth hsettle hend hp
  · have hrefused : (begin ctx c request).progress = .finished (.done false) :=
      hrequest.refused hauth
    obtain ⟨_, rfl⟩ := hruns.of_finished hrefused
    cases hrefused.symm.trans hend

/-- Two lines of a product: the service answers with the first when it is deleted, and with a message
when the second is, and the product is gone. -/
theorem gone_after_echo_of_first_line :
    let row : Int → Int → Payload := fun id quantity =>
      .object [("id", .int id), ("quantity", .int quantity), ("sneaker_id", .int 7)]
    let message : Payload := .object [("message", .text "Item removed from cart")]
    let c := loaded ⟨true, .empty⟩ .empty (.list [row 1 2, row 2 3])
    let removed : Answered := ⟨.removeCartLine (.int 1), .sending 7 none true, .value (row 1 2)⟩
    let deleted : Answered := ⟨.removeCartLine (.int 2), .folding 7 none [], .value message⟩
    ∃ last, Runs ⟨true, .empty⟩ (begin ⟨true, .empty⟩ c (.remove (.int 7))) [removed, deleted] last ∧
      last.progress = .finished (.done true) ∧
      settledOn? [removed, deleted] = some message ∧ isSnapshot message = false ∧
      7 ∉ last.state.lines.map (·.product) ∧ 7 ∉ last.state.confirmed.map (·.product) := by
  intro row message c removed deleted
  let first := begin ⟨true, .empty⟩ c (.remove (.int 7))
  let folding := resume ⟨true, .empty⟩ first.state removed.point removed.reply
  let last := resume ⟨true, .empty⟩ folding.state deleted.point deleted.reply
  have hfirst : first.progress = .calling removed.call removed.point := by rfl
  have hfolding : folding.progress = .calling deleted.call deleted.point := by rfl
  have hruns : Runs ⟨true, .empty⟩ first [removed, deleted] last :=
    .reply _ hfirst (.reply _ hfolding (.rest last))
  have hend : last.progress = .finished (.done true) := by rfl
  have hline : lineOf? 7 c.lines = some ⟨some (.number 1), 7, 5, .zero⟩ := by decide +kernel
  have hlisted := listed_after_removal_iff hline (Option.some_ne_none _) (.remove rfl) hruns hend rfl rfl
  have hgone : ¬BringsBack 7 message [removed, deleted] := by
    rintro ⟨r, hr, _⟩
    cases hr
  exact ⟨last, hruns, hend, rfl, rfl, mt hlisted.lines.mp hgone, mt hlisted.confirmed.mp hgone⟩

/-- A service that answers with the line that it has deleted brings the line back. -/
theorem echo_brings_back :
    let echo : Payload := .object [("id", .int 1), ("quantity", .int 1), ("sneaker_id", .int 7)]
    let c := loaded ⟨true, .empty⟩ .empty (.list [echo])
    let removed : Answered := ⟨.removeCartLine (.int 1), .sending 7 none false, .value echo⟩
    lineOf? 7 c.lines = some ⟨some (.number 1), 7, 1, .zero⟩ ∧
      ∃ last, Runs ⟨true, .empty⟩ (begin ⟨true, .empty⟩ c (.remove (.int 7))) [removed] last ∧
        last.progress = .finished (.done true) ∧
        settledOn? [removed] = some echo ∧ isSnapshot echo = false ∧
        last.state.lines.map (·.product) = [7] ∧ last.state.confirmed.map (·.product) = [7] := by
  intro echo c removed
  let first := begin ⟨true, .empty⟩ c (.remove (.int 7))
  let last := resume ⟨true, .empty⟩ first.state removed.point removed.reply
  have hfirst : first.progress = .calling removed.call removed.point := by rfl
  have hlines : last.state.lines.map (·.product) = [7] ∧
      last.state.confirmed.map (·.product) = [7] := by decide +kernel
  exact ⟨by decide +kernel, last, .reply _ hfirst (.rest last), rfl, rfl, rfl, hlines⟩

end Shopfront.Cart
