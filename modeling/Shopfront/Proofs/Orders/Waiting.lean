import Shopfront.Proofs.Orders.Traffic

/-! The loading flag of the orders store. It is one flag for all refreshes: one that begins sets it, and
one that ends takes it back, whether or not others still wait. Main statement: the flag is right
exactly if no call is outstanding or no refresh has ended since the last one began
(`loading_iff_outstanding_iff`); it is not after the first of two has ended
(`idle_while_outstanding`). -/

namespace Shopfront.Orders.Traffic

/-- Some refresh waits for the reply to a call. -/
def Outstanding (t : Traffic) : Prop := ∃ place a, t.waiting? place = some a

/-- A refresh that has waited for a reply ends with the event. -/
def Ends (t : Traffic) (e : Event) : Prop :=
  ∃ place, t.mover? e = some place ∧ t.waiting? place ≠ none ∧ (t.handle e).waiting? place = none

/-- A refresh has begun with a credential, and none has ended since. -/
inductive Fresh : List Event → Prop
  | begin (past) : Fresh (past ++ [.begin true])
  | keep {past e} : Fresh past → ¬(start.run past).Ends e → Fresh (past ++ [e])

theorem fresh_concat_iff {past : List Event} {e : Event} :
    Fresh (past ++ [e]) ↔ e = .begin true ∨ Fresh past ∧ ¬(start.run past).Ends e := by
  constructor
  · generalize hevents : past ++ [e] = events
    rintro (⟨_⟩ | ⟨hfresh, hends⟩)
    · obtain ⟨_, he⟩ := List.append_inj' hevents rfl
      exact .inl (List.singleton_inj.mp he)
    · obtain ⟨rfl, he⟩ := List.append_inj' hevents rfl
      obtain rfl := List.singleton_inj.mp he
      exact .inr ⟨hfresh, hends⟩
  · rintro (rfl | ⟨hfresh, hends⟩)
    · exact .begin past
    · exact .keep hfresh hends

variable {t t' : Traffic} {e : Event}

/-- A refresh that makes no step with an event waits for what it has waited for. -/
theorem Handles.waiting?_eq (hh : Handles t e t') {place : Nat} {a : Awaited Point}
    (ha : t.waiting? place = some a) (hne : t.mover? e ≠ some place) :
    t'.waiting? place = some a := by
  obtain ⟨r, hr, hra⟩ := Option.bind_eq_some_iff.mp ha
  have hlt : place < t.refreshes.length := (List.getElem?_eq_some_iff.mp hr).1
  cases hh with
  | begin | refuse => rwa [waiting?, List.getElem?_append_left hlt]
  | @goOn other _ _ _ _ _ _ _ _ _ =>
    have hne : other ≠ place := by
      rintro rfl
      exact hne (by rw [mover?, ha]; rfl)
    rwa [waiting?, List.getElem?_set_ne hne]
  | miss _ | reset => exact ha

/-- A refresh that begins sets the flag, and one that ends takes it back. -/
theorem loading_handle_iff (h : t.Staged) (e : Event) :
    (t.handle e).store.loading = true ↔
      e = .begin true ∨ t.store.loading = true ∧ ¬t.Ends e := by
  have hh := handle_handles h e
  unfold Ends
  generalize t.handle e = t' at hh ⊢
  cases hh with
  | begin => exact iff_of_true rfl (.inl rfl)
  | refuse =>
    have hnew : t.waiting? t.refreshes.length = none := by
      rw [waiting?, List.getElem?_eq_none (Nat.le_refl _), Option.bind_none]
    simp [mover?, hnew, Orders.reset]
  | miss hmiss => simp [mover?, hmiss]
  | reset => simp [mover?, Orders.reset]
  | @goOn place _ r a r' o hr ha _ hgoesOn =>
    have hlt : place < t.refreshes.length := (List.getElem?_eq_some_iff.mp hr).1
    have hwaits : t.waiting? place = some a := by rw [waiting?, hr, Option.bind_some, ha]
    have hnext : Traffic.waiting? ⟨o, t.refreshes.set place r'⟩ place = r'.awaited? := by
      rw [waiting?, List.getElem?_set_self hlt, Option.bind_some]
    cases hgoesOn with
    | ask hasks => simp [mover?, hwaits, hnext, hasks]
    | fetch hfetched => simp [mover?, hwaits, hnext, hfetched.awaited?_eq]
    | giveUp _ hend _ => simp [mover?, hwaits, hnext, hend]

theorem loading_iff_fresh (events : List Event) :
    (start.run events).store.loading = true ↔ Fresh events := by
  induction events using List.reverseRecOn with
  | nil =>
    refine iff_of_false Bool.false_ne_true ?_
    generalize hnil : ([] : List Event) = events
    rintro (⟨past⟩ | ⟨_, _⟩) <;> simp at hnil
  | append_singleton past e ih =>
    rw [run_concat, loading_handle_iff (staged_run past), fresh_concat_iff, ih]

theorem Fresh.outstanding {events : List Event} (h : Fresh events) :
    (start.run events).Outstanding := by
  induction h with
  | begin past =>
    have hh := run_handles past (.begin true)
    generalize start.run (past ++ [.begin true]) = t' at hh ⊢
    cases hh
    exact ⟨_, _, by rw [waiting?, List.getElem?_concat_length, Option.bind_some]⟩
  | @keep past e _ hends ih =>
    obtain ⟨place, a, ha⟩ := ih
    by_cases hm : (start.run past).mover? e = some place
    · rw [run_concat]
      cases hnext : ((start.run past).handle e).waiting? place with
      | none => exact absurd ⟨place, hm, ha ▸ Option.some_ne_none a, hnext⟩ hends
      | some b => exact ⟨place, b, hnext⟩
    · exact ⟨place, a, (run_handles past e).waiting?_eq ha hm⟩

/-- **When the orders' loading flag is right.** However refreshes interleave with one another and with
resets, and whatever the replies are: the flag is set exactly if a refresh has begun and none has ended
since. So it is set only while a call is outstanding, and it is set for every outstanding call exactly
if no refresh has ended since the last one began. -/
theorem loading_iff_outstanding_iff (events : List Event) :
    let t := start.run events
    (t.store.loading = true ↔ Fresh events) ∧
      ((t.store.loading = true ↔ t.Outstanding) ↔ (t.Outstanding → Fresh events)) := by
  intro t
  have hfresh := loading_iff_fresh events
  refine ⟨hfresh, ?_⟩
  rw [hfresh]
  exact ⟨fun h => h.mpr, fun h => ⟨Fresh.outstanding, h⟩⟩

/-- The first of two refreshes ends and takes the flag back while the call of the second is
outstanding. -/
theorem idle_while_outstanding :
    let t := start.run [.begin true, .begin true, .reply 0 (.value (.list []))]
    t.store.loading = false ∧ t.Outstanding := by
  exact ⟨rfl, 1, _, rfl⟩

end Shopfront.Orders.Traffic
