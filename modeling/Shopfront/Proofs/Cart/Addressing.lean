import Mathlib.Data.List.Induction
import Shopfront.Proofs.Cart.Ownership

/-! Which lines the calls of a cart name. The service gives an id for a product in a line of the
product, or in an acknowledgement of its addition that names no product. An operation whose product
is shown without an id takes one from any reply that is not about the product, so also from another
product's line and from the answer to a deletion. Main statement: these are the only ways, and the
calls name given ids alone exactly if none that was not given has been taken (`addressed_iff`). -/

namespace Shopfront

/-- The line that a call names. -/
def Call.line? : Call → Option Payload
  | .updateCartLine line _ => some line
  | .removeCartLine line => some line
  | _ => none

namespace Cart

open Underway (callOf?)

/-- The id is given as one of the product's lines: in a line that names the product, or in an
acknowledgement of an addition of it. -/
inductive Told.Gives : Told → Int → Reference → Prop
  | line {x r id} : r ∈ Told.reports x → r.id = some id → Gives x r.product id
  | acknowledgement {product quantity point p id} : isSnapshot p = false →
      Report.ofPayload? p = none → acknowledgedId? p = some id →
      Gives (.reply ⟨.addToCart product quantity, point⟩ p) product id

/-- The id may be taken for one of the product's lines though it is not given as such. An addition
is answered with a line of another product; or the last further line is deleted after an addition,
and the answer to this carries an id. -/
inductive Told.Misgives : Told → Int → Reference → Prop
  | stranger {product quantity point p r id} : isSnapshot p = false →
      Report.ofPayload? p = some r → r.product ≠ product → acknowledgedId? p = some id →
      Misgives (.reply ⟨.addToCart product quantity, point⟩ p) product id
  | deletion {line product shown p id} : Takes product shown p id →
      Misgives (.reply ⟨.removeCartLine line, .folding product shown []⟩ p) product id

def Told.Offers (x : Told) (product : Int) (id : Reference) : Prop :=
  x.Gives product id ∨ x.Misgives product id

/-- The account of all that has been told, in a way to tell whose an id is. -/
def accountOf (way : Told → Account) (told : List Told) : Account :=
  fun product id => ∃ x ∈ told, way x product id

variable {way : Told → Account} {told : List Told} {x : Told} {product : Int} {id : Reference}
variable {own : Account} {a : Awaited Point} {c : Cart} {p : Payload} {shown : Option Line}
variable {ctx : Context} {point : Point} {line : Line}

theorem accountOf_append (more : List Told) (h : accountOf way told product id) :
    accountOf way (told ++ more) product id :=
  let ⟨y, hy, hway⟩ := h
  ⟨y, List.mem_append_left _ hy, hway⟩

theorem accountOf_concat_self (told : List Told) (h : way x product id) :
    accountOf way (told ++ [x]) product id :=
  ⟨x, List.mem_append_right _ (List.mem_singleton_self x), h⟩

/-- An id is taken only from the answer to an addition, or to the deletion of the last further
line. -/
theorem Keeps.offers (ha : Keeps own a) (h : Adopts c (.reply a p) product id) :
    Told.Offers (.reply a p) product id := by
  obtain ⟨call, point⟩ := a
  obtain ⟨hs, ht⟩ := h
  obtain ⟨line, rfl, hnone⟩ := ht.unnamed
  rcases settling_cases hs with ⟨folding, rfl, _⟩ | rfl
  · cases ha with
    | add quantity _ _ =>
      cases hr : Report.ofPayload? p with
      | none => exact .inl (.acknowledgement ht.single hr ht.acknowledged)
      | some r => exact .inr (.stranger ht.single hr (ht.elsewhere r hr) ht.acknowledged)
    | put quantity _ _ hid _ => cases hid.symm.trans hnone
  · cases ha with
    | fold _ _ _ => exact .inr (.deletion ht)

/-! ## Ids that have been taken -/

theorem resume_of_settling (ctx : Context) (h : point.settling? c = some (product, shown))
    (p : Payload) :
    ∃ c', resume ctx c point (.value p) = settle ctx c' product shown p := by
  rcases settling_cases h with ⟨folding, rfl, hnil⟩ | rfl
  · cases folding with
    | false => exact ⟨c, rfl⟩
    | true =>
      simp only [resume, if_true, hnil rfl]
      exact ⟨_, rfl⟩
  · exact ⟨_, rfl⟩

theorem settledLine_of_takes (ht : Takes product (some line) p id) (hnone : line.id = none) :
    settledLine ctx c product (some line) p = some { line with id := some id } := by
  have hack : acknowledge p (some line) = some { line with id := some id } := by
    simp [acknowledge, hnone, ht.acknowledged]
  unfold settledLine
  split
  · next r hr => rw [if_neg (ht.elsewhere r hr), hack]
  · exact hack

/-- The product's line has the id that has been taken for it. -/
theorem Adopts.named (ctx : Context) (h : Adopts c (.reply a p) product id) (ha : Keeps own a) :
    ∃ line, lineOf? product (resume ctx c a.point (.value p)).state.lines = some line ∧
      line.id = some id := by
  obtain ⟨hs, ht⟩ := h
  obtain ⟨c', hresume⟩ := resume_of_settling ctx hs p
  obtain ⟨line, rfl, hnone⟩ := ht.unnamed
  have hchange : a.point.change? = some (product, some line) := by
    rcases settling_cases hs with ⟨_, h, _⟩ | h <;> rw [h] <;> rfl
  have hproduct : line.product = product := (ha.ownedChange hchange line rfl).1
  refine ⟨{ line with id := some id }, ?_, rfl⟩
  rw [hresume, settle_of_not_snapshot ht.single (settledLine_of_takes ht hnone), if_neg (by simp)]
  show lineOf? product (withLine product (some { line with id := some id }) c'.lines) = _
  rw [lineOf?_withLine, if_pos rfl]
  intro l hl
  cases hl
  exact hproduct

/-- One more of a product that is shown with an id is put on the line with this id. -/
theorem callOf?_begin_increase (hl : lineOf? product c.lines = some line) (hid : line.id = some id)
    (catalog : Catalog) :
    callOf? (begin ⟨true, catalog⟩ c (.increase (.int product))).progress =
      some ⟨.updateCartLine id.payload (line.quantity + 1),
        .sending product (some { line with quantity := line.quantity + 1 })
          !(foldedIds product c.folded).isEmpty⟩ := by
  simp [begin, gated, gate, Payload.id?, increase, hl, hid, send, Shopfront.Step.call, callOf?]

namespace Traffic

variable {t : Traffic} {catalog : Catalog}

/-- What the cart is told along events. -/
def tellings (catalog : Catalog) (t : Traffic) : List Event → List Told
  | [] => []
  | e :: events => (t.told? e).toList ++ tellings catalog (t.handle catalog e) events

theorem tellings_concat (catalog : Catalog) (t : Traffic) (events : List Event) (e : Event) :
    t.tellings catalog (events ++ [e]) =
      t.tellings catalog events ++ ((t.run catalog events).told? e).toList := by
  induction events generalizing t with
  | nil => simp [tellings, run]
  | cons e' events ih =>
    rw [List.cons_append, tellings, tellings, ih, List.append_assoc]
    rfl

/-- Whatever line a call names, it is one that the account has for the product of the operation. -/
def Addressed (own : Account) (t : Traffic) : Prop :=
  ∀ a ∈ t.underway.awaited, ∀ line ∈ a.call.line?, ∃ product shown id,
    a.point.change? = some (product, shown) ∧ line = id.payload ∧ own product id

theorem Owned.addressed (h : t.Owned own) : t.Addressed own := by
  intro a ha line hline
  cases h.awaited a ha with
  | load next => cases hline
  | add quantity folding _ => cases hline
  | put quantity folding _ _ hown | drop folding hown | fold _ hown _ =>
    cases hline
    exact ⟨_, _, _, rfl, rfl, hown⟩

/-- Every answer is the answer to a call that has been awaited. -/
theorem Owned.keeps_of_told (h : t.Owned own) {e : Event} (he : Told.reply a p ∈ t.told? e) :
    Keeps own a ∧ ∃ place authenticated, e = .reply place authenticated (.value p) ∧
      t.underway.awaited[place]? = some a := by
  cases e with
  | begin _ _ | reset => cases he
  | applySnapshot _ => cases he
  | reply place authenticated reply =>
    cases reply with
    | failure _ | fault _ => cases he
    | value q =>
      obtain ⟨b, hb, heq⟩ := Option.map_eq_some_iff.mp he
      cases heq
      exact ⟨h.awaited a (List.mem_of_getElem? hb), place, authenticated, rfl, hb⟩

variable (catalog : Catalog)

/-- The cart goes by what it has been told, if the account covers each id that an operation takes for
its product. -/
theorem owned_run (hway : ∀ {x product id}, Told.Gives x product id → way x product id)
    (events : List Event)
    (h : ∀ past e, past ++ [e] <+: events →
      (start.run catalog past).Owned (accountOf way (start.tellings catalog past)) →
      ∀ x ∈ (start.run catalog past).told? e, ∀ product id,
        Adopts (start.run catalog past).cart x product id →
        accountOf way (start.tellings catalog (past ++ [e])) product id) :
    (start.run catalog events).Owned (accountOf way (start.tellings catalog events)) := by
  induction events using List.reverseRecOn with
  | nil => exact owned_start
  | append_singleton past e ih =>
    have hpast := ih fun earlier e' hbefore =>
      h earlier e' (hbefore.trans (List.prefix_append past [e]))
    -- what has been told stays told, so the account only grows
    have hgrows : ∀ product id, accountOf way (start.tellings catalog past) product id →
        accountOf way (start.tellings catalog (past ++ [e])) product id := by
      intro product id
      rw [tellings_concat]
      exact accountOf_append _
    rw [run_concat]
    refine (hpast.mono hgrows).handle (fun x hx => ⟨?_, h past e (List.prefix_refl _) hpast x hx⟩) _
    intro r hr id hid
    rw [tellings_concat, hx]
    exact accountOf_concat_self _ (hway (.line hr hid))

theorem owned_offers (events : List Event) :
    (start.run catalog events).Owned (accountOf Told.Offers (start.tellings catalog events)) := by
  refine owned_run catalog Or.inl events fun past e _ hpast x hx product id h => ?_
  rw [tellings_concat, hx]
  cases x with
  | snapshot p => cases h
  | reply a p => exact accountOf_concat_self _ ((hpast.keeps_of_told hx).1.offers h)

/-- What is taken from an answer is named by the next call for the product. -/
theorem addressed_of_adopts {past : List Event} {e : Event}
    (hx : x ∈ (start.run catalog past).told? e)
    (hadopts : Adopts (start.run catalog past).cart x product id)
    (h : ∀ request, ((start.run catalog (past ++ [e])).handle catalog
      (.begin true request)).Addressed own) : own product id := by
  cases x with
  | snapshot p => cases hadopts
  | reply a p =>
    obtain ⟨ha, place, authenticated, rfl, hb⟩ := (owned_offers catalog past).keeps_of_told hx
    obtain ⟨line, hl, hid⟩ := hadopts.named ⟨authenticated, catalog⟩ ha
    have hcart : (start.run catalog (past ++ [.reply place authenticated (.value p)])).cart =
        (resume ⟨authenticated, catalog⟩ (start.run catalog past).cart a.point
          (.value p)).state := by
      rw [run_concat]
      simp only [handle, hb]
      rfl
    rw [← hcart] at hl
    -- one more of the product is a call of the line whose id has been taken
    have hcall := callOf?_begin_increase hl hid catalog
    specialize h (.increase (.int product))
    simp only [handle, Addressed, awaited_step, hcall] at h
    obtain ⟨_, _, _, hchange, hline, hown⟩ :=
      h _ (List.mem_append_right _ (List.mem_singleton_self _)) _ rfl
    cases hchange
    exact Reference.payload_inj hline ▸ hown

/-- **Which lines the calls of a cart name.** However operations interleave and whatever the replies
are: an id that a call names was given before as one of the product's lines, or it came with a line
of another product in the answer to an addition, or in the answer to the deletion of the last
further line. And the calls name given ids alone, whatever begins next, exactly if no operation has
taken an id from an answer that was not given by then. -/
theorem addressed_iff (events : List Event) :
    let t := start.run catalog
    let told := start.tellings catalog
    (t events).Addressed (accountOf Told.Offers (told events)) ∧
      ((∀ past, past <+: events → ∀ request, ((t past).handle catalog
          (.begin true request)).Addressed (accountOf Told.Gives (told past))) ↔
        ∀ past e, past ++ [e] <+: events → ∀ x ∈ (t past).told? e, ∀ product id,
          Adopts (t past).cart x product id →
          accountOf Told.Gives (told (past ++ [e])) product id) := by
  intro t told
  refine ⟨(owned_offers catalog events).addressed, fun h past e hbefore x hx product id ha => ?_,
    fun h past hbefore request => ?_⟩
  · exact addressed_of_adopts catalog hx ha (h (past ++ [e]) hbefore)
  · have hpast := owned_run catalog (fun hgives => hgives) past fun earlier e he _ =>
      h earlier e (he.trans hbefore)
    have hnone : (t past).told? (.begin true request) = none := rfl
    exact (hpast.handle (fun x hx => by cases hnone.symm.trans hx) catalog).addressed

/-- An addition of a product is answered with a line of another product, and the next call for the
product names that line. -/
theorem other_line_addressed :
    let line : Payload := .object [("id", .int 5), ("quantity", .int 1), ("sneaker_id", .int 9)]
    let events : List Event :=
      [.begin true (.increase (.int 7)), .reply 0 true (.value line),
        .begin true (.increase (.int 7))]
    ¬(start.run .empty events).Addressed (accountOf Told.Gives (start.tellings .empty events)) := by
  intro line events h
  have htold : start.tellings .empty events =
      [.reply ⟨.addToCart 7 1, .sending 7 (some ⟨none, 7, 1, .zero⟩) false⟩ line] := by rfl
  have hreports : changeReports line = [⟨some (.number 5), 9, 1, none⟩] := by rfl
  have hawaited : (start.run .empty events).underway.awaited =
      [⟨.updateCartLine (.int 5) 2, .sending 7 (some ⟨some (.number 5), 7, 2, .zero⟩) false⟩] := by
    rfl
  obtain ⟨product, shown, id, hchange, _, x, hx, hgives⟩ :=
    h _ (hawaited ▸ List.mem_singleton_self _) (.int 5) rfl
  rw [htold] at hx
  cases List.mem_singleton.mp hx
  obtain rfl : 7 = product := congrArg Prod.fst (Option.some.inj hchange)
  generalize hproduct : (7 : Int) = product at hgives
  cases hgives with
  | @line _ r _ hr _ =>
    have hr : r ∈ changeReports line := hr
    rw [hreports] at hr
    cases List.mem_singleton.mp hr
    exact absurd hproduct (by decide)
  | acknowledgement _ hnone _ => cases hnone

end Traffic

end Cart

end Shopfront
