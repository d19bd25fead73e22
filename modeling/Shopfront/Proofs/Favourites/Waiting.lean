import Shopfront.Proofs.Favourites.Toggles

/-! What the favourites store counts as waiting: one count for the operations that wait for a listing
or a change of the favourites, one for those that wait for products. Main statements: a step keeps
both counts exact, whether it begins an operation, lets a toggle go to work or takes a reply in
(`Counted.begin`, `Counted.wake`, `Counted.resume`). -/

namespace Shopfront.Favourites

/-- Whether an operation at a point waits for the favourites, and not for products. -/
def Point.concernsIds : Point → Bool
  | .loadingIds _ => true
  | .loadingDetails .. => false
  | .toggling .. => true

/-- The store counts the operations that wait. -/
structure Counted (f : Favourites) (as : List (Awaited Point)) : Prop where
  ids : f.idsPending = as.countP (·.point.concernsIds)
  details : f.detailsPending = as.countP (!·.point.concernsIds)

/-- The store counts the operations that wait, with the one that has made the step. -/
def CountedStep (as : List (Awaited Point)) (s : Step) : Prop :=
  Counted s.state (as ++ s.progress.awaited?.toList)

variable {authenticated : Bool} {f : Favourites} {s : Step} {as : List (Awaited Point)}

theorem CountedStep.after (h : CountedStep as s) (entries : Journal) :
    CountedStep as (s.after entries) := h

/-- A step that ends its operation. -/
theorem Counted.stay (h : Counted s.state as) (hs : s.progress.awaited? = none) :
    CountedStep as s := by
  rw [CountedStep, hs, Option.toList_none, List.append_nil]
  exact h

/-- One more operation waits and is counted. -/
theorem Counted.concat (h : Counted f as) {f' : Favourites} {a : Awaited Point}
    (hids : f'.idsPending = f.idsPending + if a.point.concernsIds then 1 else 0)
    (hdetails : f'.detailsPending = f.detailsPending + if !a.point.concernsIds then 1 else 0) :
    Counted f' (as ++ [a]) := by
  refine ⟨?_, ?_⟩
  · rw [List.countP_append, List.countP_singleton, ← h.ids, hids]
  · rw [List.countP_append, List.countP_singleton, ← h.details, hdetails]

theorem Continues.counted {toggle? : Option (Turn × Outcome)}
    (hs : Continues authenticated f toggle? s) (h : Counted f as) : CountedStep as s := by
  induction hs with
  | finish _ _ => exact h.stay rfl
  | leave _ _ _ => exact Counted.stay ⟨h.ids, h.details⟩ rfl
  | loadIds _ _ _ => exact h.concat rfl rfl
  | loadDetails _ _ _ => exact h.concat rfl rfl
  | clear _ _ ih => exact ih ⟨h.ids, h.details⟩
  | noDetails _ ih => exact ih ⟨h.ids, h.details⟩
  | after entries _ ih => exact (ih h).after entries

theorem Sends.counted {turn : Turn} (hs : Sends f turn s) (h : Counted f as) :
    CountedStep as s := by
  induction hs with
  | remove _ => exact h.concat rfl rfl
  | add _ => exact h.concat rfl rfl
  | after entries _ ih => exact ih.after entries

theorem Counted.begin (h : Counted f as) (authenticated : Bool) (request : Request) :
    CountedStep as (begin authenticated f request) := by
  suffices hb : ∀ {s}, Begins authenticated f request s → CountedStep as s from hb (begin_begins _)
  intro s hs
  induction hs with
  | send _ _ _ hsends => exact hsends.counted ⟨h.ids, h.details⟩
  | queue _ _ _ => exact Counted.stay ⟨h.ids, h.details⟩ rfl
  | refuse _ => exact h.stay rfl
  | load _ hcont => exact hcont.counted h
  | stop _ _ => exact Counted.stay h rfl
  | after entries _ ih => exact ih.after entries

theorem Counted.wake (h : Counted f as) (turn : Turn) (ticket : Nat) :
    CountedStep as (wake f turn ticket) :=
  (wake_sends turn ticket).counted ⟨h.ids, h.details⟩

/-! ## Replies -/

theorem idsPending_received (f : Favourites) (point : Point) (reply : Reply) :
    (received f point reply).idsPending =
      f.idsPending - if point.concernsIds then 1 else 0 := by
  cases point <;> cases reply <;> rfl

theorem detailsPending_received (f : Favourites) (point : Point) (reply : Reply) :
    (received f point reply).detailsPending =
      f.detailsPending - if !point.concernsIds then 1 else 0 := by
  cases point <;> cases reply <;> rfl

/-- A reply of any kind takes the operation that waited for it out of its count. -/
theorem Counted.received {u : Underway} (h : Counted f u.calls.awaited) {place : Nat}
    {a : Awaited Point} (ha : u.calls.awaited[place]? = some a) (reply : Reply) :
    Counted (received f a.point reply) (u.takeCall place).calls.awaited := by
  obtain ⟨hlt, rfl⟩ := List.getElem?_eq_some_iff.mp ha
  have hperm := List.getElem_cons_eraseIdx_perm hlt
  refine ⟨?_, ?_⟩
  · rw [idsPending_received, h.ids, ← hperm.countP_eq, List.countP_cons, Nat.add_sub_cancel]
    rfl
  · rw [detailsPending_received, h.details, ← hperm.countP_eq, List.countP_cons,
      Nat.add_sub_cancel]
    rfl

theorem Counted.resume {u : Underway} (h : Counted f u.calls.awaited) {place : Nat}
    {a : Awaited Point} (ha : u.calls.awaited[place]? = some a) (authenticated : Bool)
    (reply : Reply) :
    CountedStep (u.takeCall place).calls.awaited (resume authenticated f a.point reply) := by
  have hreceived := h.received ha reply
  suffices hr : ∀ {s}, Resumes authenticated f a.point reply s →
      CountedStep (u.takeCall place).calls.awaited s from hr (resume_resumes _ _)
  intro s hs
  induction hs with
  | goOn hcont => exact hcont.counted hreceived
  | fail _ _ => exact Counted.stay ⟨hreceived.ids, hreceived.details⟩ rfl
  | abandon _ _ _ => exact Counted.stay ⟨hreceived.ids, hreceived.details⟩ rfl
  | stop _ _ _ => exact Counted.stay hreceived rfl
  | after entries _ ih => exact ih.after entries

/-! ## Calls -/

/-- The endpoints that list or change the favourites. -/
def favouritesEndpoints : List Endpoint := [.getFavourites, .addFavourite, .removeFavourite]

theorem Asks.mem_favouritesEndpoints_iff {call : Call} {point : Point} (h : Asks call point) :
    call.endpoint ∈ favouritesEndpoints ↔ point.concernsIds = true := by
  cases h <;> simp [Call.endpoint, Point.concernsIds, favouritesEndpoints]

theorem Asks.endpoint_eq_batch_iff {call : Call} {point : Point} (h : Asks call point) :
    call.endpoint = .getProductsBatch ↔ (!point.concernsIds) = true := by
  cases h <;> simp [Call.endpoint, Point.concernsIds]

end Shopfront.Favourites
