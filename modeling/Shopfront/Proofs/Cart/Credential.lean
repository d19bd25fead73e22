import Mathlib.Logic.Basic
import Shopfront.Proofs.Cart.Transition

/-! Calls of the cart without a credential. A request is refused without one, and a load that an
operation comes to is left out. But a change is not asked again for a credential once its operation
has gone past the request. Main statement: the exact replies after which an operation calls the
backend although nobody is logged in (`callOf?_resume_iff`). -/

namespace Shopfront.Cart

open Underway (callOf?)

/-- The operation goes on with a change of one of the lines. To take the last one away it asks for
the credential again, and so it does not count here. -/
inductive Next.Presses (lines : List Line) : Next → Prop
  | remove {product line} : lineOf? product lines = some line → line.id ≠ none →
      Presses lines (.remove product)
  | decrease {product line} : lineOf? product lines = some line → line.id ≠ none →
      1 < line.quantity → Presses lines (.decrease product)

/-- Replies after which an operation calls the backend without a look at the credential. -/
inductive Overreaches (ctx : Context) (c : Cart) : Point → Reply → Prop
  | loaded {next p} : next.Presses (loaded ctx c p).lines →
      Overreaches ctx c (.loading next) (.value p)
  | notLoaded {next f} : next.Presses c.lines → Overreaches ctx c (.loading next) (.failure f)
  | fold {product shown p} : foldedIds product c.folded ≠ [] →
      Overreaches ctx c (.sending product shown true) (.value p)
  | foldNext {product shown p id rest} :
      Overreaches ctx c (.folding product shown (id :: rest)) (.value p)

variable {ctx : Context} {c : Cart}

theorem not_presses_nil (next : Next) : ¬next.Presses [] := by
  intro h
  cases h with
  | remove hl _ => cases hl
  | decrease hl _ _ => cases hl

/-- The calls of the cart need a credential, each of them. -/
theorem Change.isPublic_eq_false {product : Int} {shown : Option Line} {call : Call}
    (h : Change ctx c product shown call) : call.endpoint.isPublic = false := by
  cases h <;> rfl

theorem Continues.isPublic_eq_false {s : Step} (h : Continues ctx c s) :
    ∀ a, callOf? s.progress = some a → a.call.endpoint.isPublic = false := by
  induction h with
  | finish _ _ => exact fun _ ha => by cases ha
  | fail _ _ => exact fun _ ha => by cases ha
  | send hchange =>
    intro a ha
    cases ha
    exact hchange.isPublic_eq_false
  | load _ _ _ =>
    intro a ha
    cases ha
    rfl
  | empty _ _ ih => exact ih
  | after _ _ ih => exact ih

theorem Settles.isPublic_eq_false {product : Int} {shown : Option Line} {reply : Payload} {s : Step}
    (h : Settles ctx c product shown reply s) :
    ∀ a, callOf? s.progress = some a → a.call.endpoint.isPublic = false := by
  induction h with
  | snapshot _ => exact fun _ ha => by cases ha
  | line _ _ _ => exact fun _ ha => by cases ha
  | unnamed _ _ _ => exact (reload_continues .succeed).isPublic_eq_false
  | after _ _ ih => exact ih

theorem Resumes.isPublic_eq_false {point : Point} {reply : Reply} {s : Step}
    (h : Resumes ctx c point reply s) :
    ∀ a, callOf? s.progress = some a → a.call.endpoint.isPublic = false := by
  induction h with
  | loaded hcont | notLoaded _ hcont | revert _ hcont => exact hcont.isPublic_eq_false
  | fold _ _ _ _ =>
    intro a ha
    cases ha
    rfl
  | settle _ hsettles | settleFolded _ hsettles => exact hsettles.isPublic_eq_false
  | stop _ => exact fun _ ha => by cases ha
  | after _ _ ih => exact ih

/-! ## Nobody is logged in -/

variable (ha : ctx.authenticated = false)
include ha

theorem callOf?_decreaseKnown_iff (product : Int) (line : Line) (id : Reference) :
    callOf? (decreaseKnown ctx c product line id).progress = none ↔ ¬1 < line.quantity := by
  unfold decreaseKnown
  split
  · next hq =>
    rw [removeKnown, if_neg (by simp [ha])]
    exact iff_of_true rfl (Int.not_lt.mpr hq)
  · next hq => exact iff_of_false nofun (not_not.mpr (Int.not_le.mp hq))

theorem callOf?_proceed_iff (next : Next) :
    callOf? (proceed ctx c next).progress = none ↔ ¬next.Presses c.lines := by
  cases next with
  | nothing | fail _ | succeed =>
    refine iff_of_true rfl fun hp => ?_
    cases hp
  | decrease product =>
    simp only [proceed]
    split
    · next line hl =>
      split
      · next id hid =>
        rw [callOf?_decreaseKnown_iff ha]
        refine not_congr ⟨fun hq => .decrease hl (by simp [hid]) hq, fun hp => ?_⟩
        cases hp with
        | decrease hl' _ hq =>
          cases hl.symm.trans hl'
          exact hq
      · next hid =>
        refine iff_of_true rfl fun hp => ?_
        cases hp with
        | decrease hl' hid' _ =>
          cases hl.symm.trans hl'
          exact hid' hid
    · next hl =>
      refine iff_of_true rfl fun hp => ?_
      cases hp with
      | decrease hl' _ _ => cases hl.symm.trans hl'
  | remove product =>
    simp only [proceed]
    split
    · next id h =>
      obtain ⟨line, hl, hid⟩ := Option.bind_eq_some_iff.mp h
      exact iff_of_false (Option.some_ne_none _) (not_not.mpr (.remove hl (by simp [hid])))
    · next h =>
      refine iff_of_true rfl fun hp => ?_
      cases hp with
      | remove hl hid =>
        rw [hl] at h
        exact hid h

theorem callOf?_reload (c : Cart) (next : Next) :
    callOf? (reload ctx c next).progress = none := by
  rw [reload, if_neg (by simp [ha]), callOf?_proceed_iff ha]
  exact not_presses_nil next

theorem callOf?_begin (request : Request) : callOf? (begin ctx c request).progress = none := by
  have refused : ∀ (action : String) (product : Payload) (run : Int → Step),
      callOf? (gated ctx c action product run).progress = none := by
    intro action product run
    simp only [gated, gate, ha]
    rfl
  cases request with
  | refresh => exact callOf?_reload ha c _
  | increase product => exact refused ..
  | decrease product => exact refused ..
  | remove product => exact refused ..

theorem callOf?_settle (c : Cart) (product : Int) (shown : Option Line) (reply : Payload) :
    callOf? (settle ctx c product shown reply).progress = none := by
  suffices h : ∀ {s}, Settles ctx c product shown reply s → callOf? s.progress = none from
    h (settle_settles product shown reply)
  intro s hs
  induction hs with
  | snapshot _ => rfl
  | line _ _ _ => rfl
  | unnamed _ _ _ => exact callOf?_reload ha _ _
  | after _ _ ih => exact ih

theorem callOf?_foldNext_iff (product : Int) (shown : Option Line) (reply : Payload)
    (rest : List Reference) :
    callOf? (foldNext ctx c product shown reply rest).progress = none ↔ rest = [] := by
  cases rest with
  | nil => exact iff_of_true (callOf?_settle ha _ _ _ _) rfl
  | cons id rest => exact iff_of_false nofun (List.cons_ne_nil _ _)

theorem callOf?_resume_iff (point : Point) (reply : Reply) :
    callOf? (resume ctx c point reply).progress = none ↔ ¬Overreaches ctx c point reply := by
  cases point with
  | loading next =>
    cases reply with
    | value p =>
      refine (callOf?_proceed_iff ha next).trans (not_congr ⟨.loaded, fun h => ?_⟩)
      cases h
      assumption
    | failure f =>
      have hlines : (release { c with error := some (f.userMessage loadFailed) }).lines = c.lines :=
        rfl
      refine (callOf?_proceed_iff ha next).trans ?_
      rw [hlines]
      refine not_congr ⟨.notLoaded, fun h => ?_⟩
      cases h
      assumption
    | fault fault => exact iff_of_true rfl nofun
  | sending product shown folding =>
    cases reply with
    | value p =>
      cases folding with
      | false => exact iff_of_true (callOf?_settle ha _ _ _ _) nofun
      | true =>
        refine (callOf?_foldNext_iff ha product shown p _).trans (iff_not_comm.mp ⟨?_, .fold⟩)
        intro h
        cases h
        assumption
    | failure f =>
      refine iff_of_true ?_ nofun
      cases folding with
      | false => rfl
      | true => exact callOf?_reload ha _ _
    | fault fault => exact iff_of_true rfl nofun
  | folding product shown rest =>
    cases reply with
    | value p =>
      refine (callOf?_foldNext_iff ha product shown p rest).trans ?_
      cases rest with
      | nil => exact iff_of_true rfl nofun
      | cons id rest => exact iff_of_false (List.cons_ne_nil _ _) (not_not.mpr .foldNext)
    | failure f => exact iff_of_true (callOf?_reload ha _ _) nofun
    | fault fault => exact iff_of_true rfl nofun

end Shopfront.Cart
