import Shopfront.Proofs.Backend.Report
import Shopfront.Proofs.Cart.Transition

/-! What a cart says of failed calls. While the cart is loaded again after a failed change, the
operation keeps the message of that failure. Main statements: a step keeps a message that says
something, or ends its operation as it should (`begin_honest`, `resume_honest`). -/

namespace Shopfront.Cart

open Underway (callOf? endingOf?)

/-- A message that is kept for the end says something. -/
def Point.Speaks : Point → Prop
  | .loading next => ∀ message ∈ next.message?, message ≠ ""
  | _ => True

/-- A step that leaves nothing unsaid, with the point where its operation waits then. -/
structure Honest (failed : Bool) (s : Step) : Prop where
  speaks : ∀ a ∈ callOf? s.progress, a.point.Speaks
  tells : ∀ ending ∈ endingOf? s.progress, Tells failed s.state.error ending

variable {ctx : Context} {c : Cart} {message? : Option String} {failed : Bool} {s : Step}

theorem Honest.after (h : Honest failed s) (entries : Journal) : Honest failed (s.after entries) :=
  ⟨h.speaks, h.tells⟩

theorem honest_finish {result : Result} (h : failed = true → Reported c.error) :
    Honest failed (.finish c result) := by
  refine ⟨fun a ha => (by cases ha), ?_⟩
  intro ending hending
  cases hending
  exact h

theorem honest_call {call : Call} {point : Point} (h : point.Speaks) :
    Honest failed (.call c call point) := by
  refine ⟨?_, fun ending hending => (by cases hending)⟩
  intro a ha
  cases ha
  exact h

/-- An operation that has a message ends with it, and any other leaves the error as it is. -/
theorem Proceeds.honest (hs : Proceeds ctx c message? s) (hspeaks : ∀ m ∈ message?, m ≠ "")
    (hfailed : failed = true → Reported c.error ∨ message?.isSome) : Honest failed s := by
  induction hs with
  | finish _ =>
    refine honest_finish fun hf => ?_
    obtain h | h := hfailed hf
    · exact h
    · cases h
  | fail message => exact honest_finish fun _ => ⟨message, rfl, hspeaks message rfl⟩
  | send _ => exact honest_call trivial
  | after entries _ ih => exact (ih hspeaks hfailed).after entries

theorem Leads.honest (hs : Leads ctx c message? s) (hspeaks : ∀ m ∈ message?, m ≠ "")
    (hfailed : failed = true → message?.isSome) : Honest failed s := by
  induction hs with
  | proceed hproceeds => exact hproceeds.honest hspeaks fun hf => .inr (hfailed hf)
  | load next _ => exact honest_call hspeaks
  | empty _ hproceeds => exact hproceeds.honest hspeaks fun hf => .inr (hfailed hf)
  | after entries _ ih => exact (ih hspeaks hfailed).after entries

/-- An operation without a message that no failure has led to. -/
theorem Leads.honest_of_none (hs : Leads ctx c none s) : Honest false s :=
  hs.honest (fun _ hm => nomatch hm) nofun

theorem begin_honest (ctx : Context) (c : Cart) (request : Request) :
    Honest false (begin ctx c request) :=
  (begin_leads request).honest_of_none

/-! ## Replies -/

theorem Settles.honest {product : Int} {shown : Option Line} {reply : Payload}
    (hs : Settles ctx c product shown reply s) : Honest false s := by
  induction hs with
  | snapshot _ => exact honest_finish nofun
  | line _ _ _ => exact honest_finish nofun
  | unnamed _ _ _ => exact Leads.honest_of_none (reload_leads .succeed)
  | after entries _ ih => exact ih.after entries

theorem foldNext_honest (product : Int) (shown : Option Line) (reply : Payload)
    (rest : List Reference) : Honest false (foldNext ctx c product shown reply rest) := by
  cases rest with
  | nil => exact (settle_settles product shown reply).honest
  | cons id rest =>
    have hspeaks : (Point.folding product shown rest).Speaks := trivial
    exact (honest_call hspeaks).after _

/-- A failed change is reported with its own message, also if the load that follows it goes well. -/
theorem revert_honest (product : Int) (folding : Bool) (f : Failure) :
    Honest true (revert ctx c product folding f) := by
  refine (revert_leads product folding f).honest ?_ fun _ => rfl
  intro message hmessage
  cases hmessage
  exact f.userMessage_ne_empty (by decide)

/-- A step from a value or a failure leaves nothing unsaid. -/
theorem resume_honest {point : Point} (h : point.Speaks) (reply : Reply)
    (hreply : reply.isFault = false) : Honest reply.isFailure (resume ctx c point reply) := by
  cases reply with
  | fault fault => cases hreply
  | value p =>
    cases point with
    | loading next =>
      have hproceeds : Honest false (proceed ctx (loaded ctx c p) next) :=
        (proceed_proceeds next).honest h nofun
      exact hproceeds.after _
    | sending product shown folding =>
      simp only [resume]
      split
      · exact foldNext_honest product shown p _
      · exact (settle_settles product shown p).honest
    | folding product shown rest => exact foldNext_honest product shown p rest
  | failure f =>
    cases point with
    | loading next =>
      have hreported : Reported (some (f.userMessage loadFailed)) :=
        f.reported_userMessage (by decide)
      exact ((proceed_proceeds next).honest h fun _ => .inl hreported).after _
    | sending product shown folding => exact revert_honest product folding f
    | folding product shown rest => exact revert_honest product true f

end Shopfront.Cart
