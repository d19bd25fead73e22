import Shopfront.Backend.Call
import Shopfront.Journal

/-! Operations that call the backend run in steps. A step goes from the start, or from the reply to
a call, up to the next call or the end. -/

namespace Shopfront

/-- Where an operation stands after a step: at a call, with the point to go on from, or at its
end. -/
inductive Progress (Point Result : Type) where
  | calling (call : Call) (point : Point)
  | finished (result : Result)
  | stopped (fault : Fault)

structure Step (State Point Result : Type) where
  state : State
  journal : Journal
  progress : Progress Point Result

namespace Step

variable {State Point Result : Type}

def finish (state : State) (result : Result) : Step State Point Result :=
  ⟨state, [], .finished result⟩

def stop (state : State) (fault : Fault) : Step State Point Result := ⟨state, [], .stopped fault⟩

def call (state : State) (c : Call) (point : Point) : Step State Point Result :=
  ⟨state, [], .calling c point⟩

/-- The step with entries in front of its own. -/
def after (entries : Journal) (s : Step State Point Result) : Step State Point Result :=
  { s with journal := entries ++ s.journal }

@[simp] theorem state_after (entries : Journal) (s : Step State Point Result) :
    (s.after entries).state = s.state := rfl

@[simp] theorem progress_after (entries : Journal) (s : Step State Point Result) :
    (s.after entries).progress = s.progress := rfl

end Step

end Shopfront
