import Shopfront.Backend.Call

/-! What a store tells its user of failed calls. Main statements: the message of a failure is never
empty (`Failure.userMessage_ne_empty`), and `Tells` is how an operation may end that has to report
one. -/

namespace Shopfront

/-- The user is told something. -/
def Reported (error : Option String) : Prop := ∃ message, error = some message ∧ message ≠ ""

def Reply.isFailure : Reply → Bool
  | .failure _ => true
  | _ => false

def Reply.isFault : Reply → Bool
  | .fault _ => true
  | _ => false

/-- An ending that leaves nothing unsaid, for a store with the given error. After a failed call there
is an answer and the error says something; otherwise the operation may have met a value that is no
list. -/
def Tells {Result : Type} (failed : Bool) (error : Option String) : Except Fault Result → Prop
  | .ok _ => failed = true → Reported error
  | .error fault => failed = false ∧ ∃ kind, fault = .notIterable kind

namespace Failure

variable {f : Failure}

theorem ne_empty_of_backendMessage? {message : String} (h : f.backendMessage? = some message) :
    message ≠ "" := by
  unfold backendMessage? at h
  split at h
  · simp only at h
    split at h
    · split at h
      · cases h
      · next hne =>
        cases h
        exact hne
    · cases h
  · cases h

/-- The user is told the backend's own words, if there are any, and else the given ones. -/
theorem userMessage_ne_empty (f : Failure) {fallback : String} (h : fallback ≠ "") :
    f.userMessage fallback ≠ "" := by
  unfold userMessage
  cases hmessage : f.backendMessage? with
  | none => exact h
  | some message => exact ne_empty_of_backendMessage? hmessage

theorem reported_userMessage (f : Failure) {fallback : String} (h : fallback ≠ "") :
    Reported (some (f.userMessage fallback)) := ⟨_, rfl, f.userMessage_ne_empty h⟩

end Failure

end Shopfront
