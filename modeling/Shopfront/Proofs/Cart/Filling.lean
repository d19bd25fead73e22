import Shopfront.Proofs.Cart.Row
import Shopfront.Proofs.Cart.Transition

/-! What fills a cart without lines when nobody is logged in. Operations under way go on without a
credential, and one that would load the cart again empties it instead; only replies to a load or to a
change, and the confirmed lines after a failed change, bring anything (`lines_resume_iff`). -/

namespace Shopfront.Cart

/-- The operation goes on by removing the line, as it can name it. -/
def Next.Takes (next : Next) (l : Line) : Prop := next = .remove l.product ∧ l.id ≠ none

/-- The reply to a change puts something in the cart: a snapshot with a line, or a line that has an
id. A line without one makes the cart load again, which empties it. -/
def Fills (ctx : Context) (c : Cart) (product : Int) (shown : Option Line) (reply : Payload) :
    Prop :=
  if isSnapshot reply then ∃ r ∈ Report.listOf reply, 1 ≤ r.quantity
  else ∃ l, settledLine ctx c product shown reply = some l ∧ l.id ≠ none

/-- Replies that fill a cart without lines. -/
inductive Brings (ctx : Context) (c : Cart) : Point → Reply → Prop
  | loaded {next p l} : l ∈ (loaded ctx c p).lines → ¬next.Takes l →
      Brings ctx c (.loading next) (.value p)
  | settled {point product shown p} : point.settling? c = some (product, shown) →
      Fills ctx c product shown p → Brings ctx c point (.value p)
  | reverted {product shown f} : c.confirmed ≠ [] →
      Brings ctx c (.sending product shown false) (.failure f)

variable {ctx : Context} {c : Cart}

theorem brings_loading_iff {next : Next} {p : Payload} :
    Brings ctx c (.loading next) (.value p) ↔ ¬∀ l ∈ (loaded ctx c p).lines, next.Takes l := by
  rw [not_forall₂]
  constructor
  · rintro (⟨hl, ht⟩ | ⟨hs, _⟩)
    · exact ⟨_, hl, ht⟩
    · cases hs
  · rintro ⟨l, hl, ht⟩
    exact .loaded hl ht

theorem brings_settling_iff {point : Point} {product : Int} {shown : Option Line} {p : Payload}
    (h : point.settling? c = some (product, shown)) :
    Brings ctx c point (.value p) ↔ Fills ctx c product shown p := by
  refine ⟨fun hb => ?_, .settled h⟩
  cases hb with
  | loaded _ _ => cases h
  | settled hs hf =>
    cases h.symm.trans hs
    exact hf

theorem brings_reverted_iff {product : Int} {shown : Option Line} {f : Failure} :
    Brings ctx c (.sending product shown false) (.failure f) ↔ ¬c.confirmed = [] := by
  refine ⟨fun hb => ?_, .reverted⟩
  cases hb
  assumption

/-- A reply after which further lines are still to be deleted. -/
theorem not_brings_of_settling {point : Point} {p : Payload} (hp : point.change? ≠ none)
    (h : point.settling? c = none) : ¬Brings ctx c point (.value p) := by
  intro hb
  cases hb with
  | loaded _ _ => exact hp rfl
  | settled hs _ => cases h.symm.trans hs

theorem not_brings_fault (point : Point) (fault : Fault) : ¬Brings ctx c point (.fault fault) := by
  intro hb
  cases hb

/-- A failure fills a cart only if a change that was shown is taken back. -/
theorem not_brings_failure {point : Point} (h : ∀ product shown, point ≠ .sending product shown false)
    (f : Failure) : ¬Brings ctx c point (.failure f) := by
  intro hb
  cases hb with
  | reverted _ => exact h _ _ rfl

theorem lines_proceed (ctx : Context) (h : c.lines = []) (next : Next) :
    (proceed ctx c next).state.lines = [] := by
  cases next with
  | decrease product =>
    simp only [proceed, lineOf?, h, List.find?_nil]
    exact h
  | remove product =>
    simp only [proceed, lineOf?, h, List.find?_nil, Option.bind_none]
    exact h
  | nothing | fail _ | succeed => exact h

variable (ha : ctx.authenticated = false)
include ha

/-- Without a credential the cart is emptied, whatever is in it. -/
theorem lines_reload (c : Cart) (next : Next) : (reload ctx c next).state.lines = [] := by
  rw [reload, if_neg (by simp [ha])]
  exact lines_proceed ctx rfl next

theorem lines_begin (h : c.lines = []) (request : Request) :
    (begin ctx c request).state.lines = [] := by
  have refused : ∀ (action : String) (product : Payload) (run : Int → Step),
      (gated ctx c action product run).state.lines = [] := by
    intro action product run
    simp only [gated, gate, ha]
    exact h
  cases request with
  | refresh => exact lines_reload ha c _
  | increase product => exact refused ..
  | decrease product => exact refused ..
  | remove product => exact refused ..

theorem lines_decreaseKnown_ne_nil (h : c.lines ≠ []) (product : Int) (line : Line)
    (id : Reference) : (decreaseKnown ctx c product line id).state.lines ≠ [] := by
  unfold decreaseKnown
  split
  · rw [removeKnown, if_neg (by simp [ha])]
    exact h
  · exact withLine_some_ne_nil _ _ _

/-- Of distinct lines an operation that goes on leaves none exactly if it takes each. -/
theorem lines_proceed_iff (hd : (c.lines.map (·.product)).Nodup) (next : Next) :
    (proceed ctx c next).state.lines = [] ↔ ∀ l ∈ c.lines, next.Takes l := by
  have kept : (∀ l ∈ c.lines, ¬next.Takes l) → (c.lines = [] ↔ ∀ l ∈ c.lines, next.Takes l) := by
    intro hn
    rw [List.eq_nil_iff_forall_not_mem]
    exact forall₂_congr fun l hl => ⟨False.elim, hn l hl⟩
  cases next with
  | nothing | fail _ | succeed => exact kept fun _ _ ht => nomatch ht.1
  | decrease product =>
    have hn : ∀ l ∈ c.lines, ¬(Next.decrease product).Takes l := fun _ _ ht => nomatch ht.1
    simp only [proceed]
    split
    · next line hl =>
      split
      · next id _ =>
        have hmem := mem_of_lineOf? hl
        exact iff_of_false (lines_decreaseKnown_ne_nil ha (List.ne_nil_of_mem hmem) _ _ _)
          fun h => hn line hmem (h line hmem)
      · exact kept hn
    · exact kept hn
  | remove product =>
    simp only [proceed]
    split
    · next id hid =>
      obtain ⟨line, hl, hid⟩ := Option.bind_eq_some_iff.mp hid
      show c.lines.filter (·.product != product) = [] ↔ _
      rw [List.filter_eq_nil_iff]
      -- the lines are distinct, so a line of the product is the one that was found, with its id
      refine forall₂_congr fun l hmem => ⟨fun h => ?_, fun ht => ?_⟩
      · have hp : l.product = product := by simpa using h
        have hf := lineOf?_of_mem hd hmem
        rw [hp, hl] at hf
        cases hf
        exact ⟨by rw [hp], by rw [hid]; exact Option.some_ne_none id⟩
      · cases ht.1
        simp
    · next hnone =>
      refine kept fun l hmem ht => ?_
      cases ht.1
      rw [lineOf?_of_mem hd hmem] at hnone
      exact ht.2 hnone

theorem Settles.lines_iff {product : Int} {shown : Option Line} {reply : Payload} {s : Step}
    (h : Settles ctx c product shown reply s) (hc : c.lines = []) :
    s.state.lines = [] ↔ ¬Fills ctx c product shown reply := by
  induction h with
  | snapshot hs =>
    rw [Fills, if_pos hs]
    refine (merge_eq_nil_iff ..).trans ?_
    simp
  | @line line hs hl hid =>
    rw [Fills, if_neg (by simp [hs]), hl]
    cases line with
    | none => simp [settleOn, withLine, Shopfront.Step.finish, hc]
    | some l =>
      refine iff_of_false ?_ fun hn => hn ⟨l, rfl, hid l rfl⟩
      exact withLine_some_ne_nil _ _ _
  | unnamed hs hl hid =>
    rw [Fills, if_neg (by simp [hs]), hl]
    refine iff_of_true (lines_reload ha _ _) ?_
    rintro ⟨l, he, hne⟩
    cases he
    exact hne hid
  | after _ _ ih => exact ih

theorem lines_settle_iff (hc : c.lines = []) (product : Int) (shown : Option Line)
    (reply : Payload) :
    (settle ctx c product shown reply).state.lines = [] ↔ ¬Fills ctx c product shown reply :=
  (settle_settles product shown reply).lines_iff ha hc

theorem lines_foldNext_nil_iff (hc : c.lines = []) (product : Int) (shown : Option Line)
    (reply : Payload) :
    (foldNext ctx c product shown reply []).state.lines = [] ↔ ¬Fills ctx c product shown reply :=
  lines_settle_iff (c := { c with folded := c.folded.filter (·.1 != product) }) ha hc
    product shown reply

theorem lines_resume_iff (hc : c.lines = []) (point : Point) (reply : Reply) :
    (resume ctx c point reply).state.lines = [] ↔ ¬Brings ctx c point reply := by
  cases point with
  | loading next =>
    cases reply with
    | value p =>
      rw [brings_loading_iff, not_not]
      exact lines_proceed_iff ha (nodup_merge ..) next
    | failure f =>
      have hp := lines_proceed (c := release { c with error := some (f.userMessage loadFailed) })
        ctx hc next
      refine iff_of_true hp (not_brings_failure (fun _ _ he => ?_) f)
      cases he
    | fault fault => cases next <;> exact iff_of_true hc (not_brings_fault _ fault)
  | sending product shown fold =>
    cases reply with
    | value p =>
      cases fold with
      | false =>
        rw [brings_settling_iff rfl]
        exact lines_settle_iff ha hc product shown p
      | true =>
        simp only [resume, if_true]
        cases hf : foldedIds product c.folded with
        | nil =>
          have hs : (Point.sending product shown true).settling? c = some (product, shown) := by
            simp [Point.settling?, hf]
          rw [brings_settling_iff hs]
          exact lines_foldNext_nil_iff ha hc product shown p
        | cons id rest =>
          refine iff_of_true hc (not_brings_of_settling ?_ ?_)
          · simp [Point.change?]
          · simp [Point.settling?, hf]
    | failure f =>
      cases fold with
      | true =>
        refine iff_of_true (lines_reload ha _ _) (not_brings_failure (fun _ _ he => ?_) f)
        cases he
      | false =>
        rw [brings_reverted_iff, not_not]
        exact Iff.rfl
    | fault fault => exact iff_of_true hc (not_brings_fault _ fault)
  | folding product shown rest =>
    cases reply with
    | value p =>
      cases rest with
      | nil =>
        rw [brings_settling_iff rfl]
        exact lines_foldNext_nil_iff ha hc product shown p
      | cons id rest => exact iff_of_true hc (not_brings_of_settling (by simp [Point.change?]) rfl)
    | failure f =>
      refine iff_of_true (lines_reload ha _ _) (not_brings_failure (fun _ _ he => ?_) f)
      cases he
    | fault fault => exact iff_of_true hc (not_brings_fault _ fault)

end Shopfront.Cart
