import Shopfront.Proofs.Number.Integer
import Shopfront.Proofs.Shop.Credential

/-! Ids in their representations. An integer and its numeral, with blanks around it or not, stand
for the same id, and a number without a fraction does. Main statement: where two values stand for
one id, it makes no difference which of them a request names, for the calls, the results and the
stores of a whole run, nor which of them is looked up (`representations_agree`). -/

namespace Shopfront

/-- Two values that stand for the same id. -/
def SameId (v w : Payload) : Prop := ∃ id, v.id? = some id ∧ w.id? = some id

variable {v w : Payload}

/-! ## Look-ups -/

namespace SameId

theorem id?_eq (h : SameId v w) : v.id? = w.id? := by
  obtain ⟨id, hv, hw⟩ := h
  rw [hv, hw]

theorem favourites_contains (h : SameId v w) (f : Favourites) : f.contains v = f.contains w := by
  rw [Favourites.contains, Favourites.contains, h.id?_eq]

theorem cart_find? (h : SameId v w) (c : Cart) : c.find? v = c.find? w := by
  rw [Cart.find?, Cart.find?, h.id?_eq]

theorem catalog_find? (h : SameId v w) (c : Catalog) : c.find? v = c.find? w := by
  rw [Catalog.find?, Catalog.find?, h.id?_eq]

theorem catalog_priceOf? (h : SameId v w) (c : Catalog) : c.priceOf? v = c.priceOf? w := by
  rw [Catalog.priceOf?, Catalog.priceOf?, h.catalog_find?]

theorem catalog_contains (h : SameId v w) (c : Catalog) : c.contains v = c.contains w := by
  rw [Catalog.contains, Catalog.contains, h.id?_eq]

end SameId

/-! ## Steps -/

/-- A value that is refused is told in the journal as it came, so the two steps may differ there. -/
theorem Favourites.exists_toggle_after (h : SameId v w) (authenticated : Bool) (f : Favourites) :
    ∃ s entries entries', toggle authenticated f v = Step.after entries s ∧
      toggle authenticated f w = Step.after entries' s := by
  obtain ⟨id, hv, hw⟩ := h
  cases authenticated with
  | true =>
    refine ⟨takeTurn f id, [], [], ?_, ?_⟩
    · rw [toggle, if_pos rfl, hv]
      rfl
    · rw [toggle, if_pos rfl, hw]
      rfl
  | false => exact ⟨.finish f (.outcome .loginRequired), _, _, rfl, rfl⟩

theorem Cart.exists_gated_after (h : SameId v w) (ctx : Context) (c : Cart) (action : String)
    (run : Int → Step) :
    ∃ s entries entries', gated ctx c action v run = Shopfront.Step.after entries s ∧
      gated ctx c action w run = Shopfront.Step.after entries' s := by
  obtain ⟨id, hv, hw⟩ := h
  obtain ⟨authenticated, catalog⟩ := ctx
  cases authenticated with
  | true =>
    refine ⟨run id, [], [], ?_, ?_⟩
    · simp only [gated, gate, if_pos, hv]
      rfl
    · simp only [gated, gate, if_pos, hw]
      rfl
  | false => exact ⟨.finish c (.done false), _, _, rfl, rfl⟩

/-! ## Runs -/

namespace Shop.Traffic

/-- The same event, or the same operation begun on another value that stands for the same id. -/
inductive Restated : Event → Event → Prop
  | same (e) : Restated e e
  | toggle {p q} : SameId p q →
      Restated (.begin (.favourites (.toggle p))) (.begin (.favourites (.toggle q)))
  | increase {p q} : SameId p q →
      Restated (.begin (.cart (.increase p))) (.begin (.cart (.increase q)))
  | decrease {p q} : SameId p q →
      Restated (.begin (.cart (.decrease p))) (.begin (.cart (.decrease q)))
  | remove {p q} : SameId p q →
      Restated (.begin (.cart (.remove p))) (.begin (.cart (.remove q)))

/-- The calls that a run issues, in their order. -/
def issuedIn (t : Traffic) : List Event → List Call
  | [] => []
  | e :: es => (t.issued? e).toList ++ issuedIn (t.handle e) es

variable {e e' : Event} {events events' : List Event}

/-- Steps that differ in the journal alone do the same to the traffic. -/
theorem begin_gated (t : Traffic) (h : SameId v w) {request : Payload → Cart.Request}
    {action : String} {run : Int → Cart.Step}
    (hrequest : ∀ v, Cart.begin t.shop.cartContext t.shop.cart (request v) =
      Cart.gated t.shop.cartContext t.shop.cart action v run) :
    t.handle (.begin (.cart (request v))) = t.handle (.begin (.cart (request w))) ∧
      t.issued? (.begin (.cart (request v))) = t.issued? (.begin (.cart (request w))) := by
  obtain ⟨s, entries, entries', hv, hw⟩ :=
    Cart.exists_gated_after h t.shop.cartContext t.shop.cart action run
  simp only [handle, begin, issued?, hrequest, hv, hw]
  exact ⟨rfl, rfl⟩

theorem Restated.handle_eq (h : Restated e e') (t : Traffic) :
    t.handle e = t.handle e' ∧ t.issued? e = t.issued? e' := by
  cases h with
  | same => exact ⟨rfl, rfl⟩
  | toggle h =>
    obtain ⟨s, entries, entries', hv, hw⟩ :=
      Favourites.exists_toggle_after h t.shop.isAuthenticated t.shop.favourites
    simp only [handle, begin, issued?, Favourites.begin, hv, hw]
    exact ⟨rfl, rfl⟩
  | increase h => exact begin_gated t h fun _ => rfl
  | decrease h => exact begin_gated t h fun _ => rfl
  | remove h => exact begin_gated t h fun _ => rfl

theorem run_restated (h : List.Forall₂ Restated events events') (t : Traffic) :
    t.run events = t.run events' ∧ t.issuedIn events = t.issuedIn events' := by
  induction h generalizing t with
  | nil => exact ⟨rfl, rfl⟩
  | cons h _ ih =>
    obtain ⟨hhandle, hissued⟩ := h.handle_eq t
    obtain ⟨hrun, hcalls⟩ := ih (t.handle _)
    rw [hhandle] at hrun hcalls
    refine ⟨?_, ?_⟩
    · show run (t.handle _) _ = run (t.handle _) _
      rw [hhandle, hrun]
    · simp only [issuedIn, hissued, hhandle, hcalls]

/-- **An id is the same in every representation.** The text of an integer that has not too many
digits stands for the integer, whatever blanks are around it. Two runs on the same traffic that
differ only in the values by which toggles and changes of the cart name the same ids issue the same
calls and come to the same stores and the same results, the same operations being under way; and
everything that is looked up by a value has the same answer for both. -/
theorem representations_agree (n : Int) (left right : String)
    (hn : Integer.digitCount n.natAbs ≤ 4300)
    (hleft : ∀ c ∈ left.toList, Text.isBlank c = true)
    (hright : ∀ c ∈ right.toList, Text.isBlank c = true) (h : SameId v w)
    (hevents : List.Forall₂ Restated events events') :
    ((Payload.text (left ++ Integer.text n ++ right)).id? = some n ∧ (Payload.int n).id? = some n) ∧
    (∀ t : Traffic, t.run events = t.run events' ∧ t.issuedIn events = t.issuedIn events') ∧
    (∀ f : Favourites, f.contains v = f.contains w) ∧
    (∀ c : Cart, c.find? v = c.find? w) ∧
    ∀ c : Catalog, c.find? v = c.find? w ∧ c.priceOf? v = c.priceOf? w ∧
      c.contains v = c.contains w := by
  refine ⟨⟨?_, rfl⟩, run_restated hevents, h.favourites_contains, h.cart_find?, ?_⟩
  · rw [Payload.id?, Integer.trim_blanks_around hleft hright, Integer.read?_text]
    exact if_pos hn
  · exact fun c => ⟨h.catalog_find? c, h.catalog_priceOf? c, h.catalog_contains c⟩

/-- A toggle and an increase that overlap, with their product as a text and as a floating-point
number. -/
theorem representations_agree_seven :
    let v : Payload := .text " 7"
    let w : Payload := .float (Binary64.ofInt 7)
    let events (p : Payload) : List Event :=
      [.begin (.favourites (.toggle p)), .begin (.cart (.increase p)),
        .land (.cart 0 (.failure ⟨"down", some 503, .null⟩)), .land (.favourites 0 (.value .null))]
    let t := start ⟨some "t"⟩ .empty Cart.defaultTaxRate
    (Payload.text ("\t" ++ Integer.text (-7) ++ " ")).id? = some (-7) ∧ SameId v w ∧
      t.run (events v) = t.run (events w) ∧ t.issuedIn (events v) = t.issuedIn (events w) ∧
      t.issuedIn (events v) = [.addFavourite 7, .addToCart 7 1, .getFavourites] := by
  intro v w events t
  have hsame : SameId v w := ⟨7, by decide +kernel, by decide +kernel⟩
  have hevents : List.Forall₂ Restated (events v) (events w) :=
    .cons (.toggle hsame) (.cons (.increase hsame) (.cons (.same _) (.cons (.same _) .nil)))
  have hleft : ∀ c ∈ "\t".toList, Text.isBlank c = true := List.forall_mem_singleton.mpr rfl
  have hright : ∀ c ∈ " ".toList, Text.isBlank c = true := List.forall_mem_singleton.mpr rfl
  have hboth := representations_agree (-7) "\t" " " (by decide) hleft hright hsame hevents
  exact ⟨hboth.1.1, hsame, (hboth.2.1 t).1, (hboth.2.1 t).2, rfl⟩

end Shop.Traffic

end Shopfront
