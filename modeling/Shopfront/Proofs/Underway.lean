import Mathlib.Data.List.Perm.Basic
import Shopfront.Backend.Progress

/-! Operations under way. A store's operation runs from call to call, and between two calls any
other operation may run. What is kept of the operations that have begun is the calls that are still
to be answered, each with the point where its operation goes on, and how the others have ended.
Main statement: the operation at a place and those that stay are all that waited. -/

namespace Shopfront

theorem filterMap_cons_eq {α β : Type} (g : α → Option β) (a : α) (as : List α) :
    (a :: as).filterMap g = (g a).toList ++ as.filterMap g := by
  cases h : g a <;> simp [h]

/-- A call without an answer yet, and the point where its operation goes on. -/
structure Awaited (Point : Type) where
  call : Call
  point : Point

structure Underway (Point Result : Type) where
  awaited : List (Awaited Point)
  endings : List (Except Fault Result)

namespace Underway

variable {Point Result : Type}

/-- Nothing has begun. -/
def idle : Underway Point Result := ⟨[], []⟩

/-- An operation has come to its next call or to its end. -/
def record (u : Underway Point Result) : Progress Point Result → Underway Point Result
  | .calling call point => { u with awaited := u.awaited ++ [⟨call, point⟩] }
  | .finished result => { u with endings := u.endings ++ [.ok result] }
  | .stopped fault => { u with endings := u.endings ++ [.error fault] }

/-- The operation at a place goes on. -/
def take (u : Underway Point Result) (place : Nat) : Underway Point Result :=
  { u with awaited := u.awaited.eraseIdx place }

/-- The call that a progress stands at, with its point. -/
def callOf? : Progress Point Result → Option (Awaited Point)
  | .calling call point => some ⟨call, point⟩
  | _ => none

theorem awaited_record (u : Underway Point Result) (p : Progress Point Result) :
    (u.record p).awaited = u.awaited ++ (callOf? p).toList := by
  cases p <;> simp [record, callOf?]

/-- How a progress ends its operation, if it does. -/
def endingOf? : Progress Point Result → Option (Except Fault Result)
  | .calling .. => none
  | .finished result => some (.ok result)
  | .stopped fault => some (.error fault)

theorem endings_record (u : Underway Point Result) (p : Progress Point Result) :
    (u.record p).endings = u.endings ++ (endingOf? p).toList := by
  cases p <;> simp [record, endingOf?]

theorem mem_awaited_take {u : Underway Point Result} {place : Nat} {a : Awaited Point}
    (h : u.awaited[place]? = some a) (b : Awaited Point) :
    b ∈ u.awaited ↔ b = a ∨ b ∈ (u.take place).awaited := by
  obtain ⟨hlt, rfl⟩ := List.getElem?_eq_some_iff.mp h
  rw [take, ← (List.getElem_cons_eraseIdx_perm hlt).mem_iff, List.mem_cons]

/-- What the operation at a place has of a kind, and what those have that stay. -/
theorem filterMap_awaited_take {β : Type} {u : Underway Point Result} {place : Nat}
    {a : Awaited Point} (h : u.awaited[place]? = some a) (g : Awaited Point → Option β) :
    (u.awaited.filterMap g).Perm ((g a).toList ++ (u.take place).awaited.filterMap g) := by
  obtain ⟨hlt, rfl⟩ := List.getElem?_eq_some_iff.mp h
  rw [← filterMap_cons_eq]
  exact (List.getElem_cons_eraseIdx_perm hlt).symm.filterMap g

end Underway

end Shopfront
