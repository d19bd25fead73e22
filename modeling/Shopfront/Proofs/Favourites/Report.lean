import Shopfront.Proofs.Backend.Report
import Shopfront.Proofs.Favourites.Toggles

/-! What the favourites store says of failed calls. Main statements: a failure of any call is reported
(`reported_received`), and a step that ends its operation ends it as it should (`begin_honest`,
`resume_honest`). -/

namespace Shopfront.Favourites

/-- How a progress ends its operation, if it does. -/
def Progress.ending? : Progress → Option (Except Fault Result)
  | .finished result => some (.ok result)
  | .stopped fault => some (.error fault)
  | _ => none

theorem Underway.endings_record (u : Underway) (s : Step) :
    (u.record s).calls.endings = u.calls.endings ++ s.progress.ending?.toList := by
  have harrive : ∀ u : Underway, (u.arrive s.progress).calls.endings =
      u.calls.endings ++ s.progress.ending?.toList := by
    intro u
    cases s.progress <;> simp [arrive, Shopfront.Underway.record, Progress.ending?]
  rw [record, harrive]
  cases s.woken <;> rfl

/-- A step that leaves nothing unsaid if it ends its operation. -/
def Honest (failed : Bool) (s : Step) : Prop :=
  ∀ ending ∈ s.progress.ending?, Tells failed s.state.error ending

variable {authenticated failed : Bool} {f : Favourites} {s : Step}

theorem Honest.after (h : Honest failed s) (entries : Journal) : Honest failed (s.after entries) :=
  h

/-- A step that answers its operation. -/
theorem honest_of_ok {result : Result} (hs : s.progress.ending? = some (.ok result))
    (h : failed = true → Reported s.state.error) : Honest failed s := by
  intro ending hending
  rw [hs] at hending
  cases hending
  exact h

theorem honest_of_waiting (hs : s.progress.ending? = none) : Honest failed s := by
  intro ending hending
  rw [hs] at hending
  cases hending

/-- An operation that goes on leaves the error as the reply has made it. -/
theorem Continues.honest {toggle? : Option (Turn × Outcome)}
    (hs : Continues authenticated f toggle? s) (h : failed = true → Reported f.error) :
    Honest failed s := by
  induction hs with
  | finish _ _ => exact honest_of_ok rfl h
  | leave _ _ _ => exact honest_of_ok rfl h
  | loadIds _ _ _ => exact honest_of_waiting rfl
  | loadDetails _ _ _ => exact honest_of_waiting rfl
  | clear _ _ ih => exact ih h
  | noDetails _ ih => exact ih h
  | after entries _ ih => exact (ih h).after entries

theorem Sends.honest {turn : Turn} (hs : Sends f turn s) : Honest failed s := by
  induction hs with
  | remove _ => exact honest_of_waiting rfl
  | add _ => exact honest_of_waiting rfl
  | after entries _ ih => exact ih.after entries

theorem begin_honest (authenticated : Bool) (f : Favourites) (request : Request) :
    Honest false (begin authenticated f request) := by
  suffices hb : ∀ {s}, Begins authenticated f request s → Honest false s from hb (begin_begins _)
  intro s hs
  induction hs with
  | send _ _ _ hsends => exact hsends.honest
  | queue _ _ _ => exact honest_of_waiting rfl
  | refuse _ => exact honest_of_ok rfl nofun
  | load _ hcont => exact hcont.honest nofun
  | stop kind _ =>
    intro ending hending
    cases hending
    exact ⟨rfl, kind, rfl⟩
  | after entries _ ih => exact ih.after entries

theorem wake_honest (f : Favourites) (turn : Turn) (ticket : Nat) :
    Honest false (wake f turn ticket) :=
  (wake_sends turn ticket).honest

/-! ## Replies -/

/-- Every failure that the store takes in is reported. -/
theorem reported_received (f : Favourites) (point : Point) (failure : Failure) :
    Reported (received f point (.failure failure)).error := by
  cases point with
  | loadingIds next =>
    show Reported (some (idsError failure))
    unfold idsError
    split
    · exact ⟨serviceMissing, rfl, by decide⟩
    · exact failure.reported_userMessage (by decide)
  | loadingDetails wanted next => exact failure.reported_userMessage (by decide)
  | toggling turn before outcome => exact failure.reported_userMessage (by decide)

/-- A step from a value or a failure leaves nothing unsaid. -/
theorem resume_honest (authenticated : Bool) (f : Favourites) (point : Point) (reply : Reply)
    (hreply : reply.isFault = false) :
    Honest reply.isFailure (resume authenticated f point reply) := by
  have hreported : reply.isFailure = true → Reported (received f point reply).error := by
    intro hfailed
    cases reply with
    | failure failure => exact reported_received f point failure
    | value p => cases hfailed
    | fault fault => cases hfailed
  suffices hr : ∀ {s}, Resumes authenticated f point reply s → Honest reply.isFailure s from
    hr (resume_resumes _ _)
  intro s hs
  induction hs with
  | goOn hcont => exact hcont.honest hreported
  | fail _ _ => exact honest_of_ok rfl hreported
  | abandon _ hfault _ =>
    subst hfault
    cases hreply
  | stop _ hfault _ =>
    subst hfault
    cases hreply
  | after entries _ ih => exact ih.after entries

end Shopfront.Favourites
