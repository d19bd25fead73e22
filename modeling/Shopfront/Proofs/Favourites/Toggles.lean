import Shopfront.Proofs.Favourites.Turns

/-! Toggles under way: those at work, those that were woken and those in line. Main statements: a step
adds the toggle that it leaves waiting and no other (`Underway.turns_record`), and only a toggle that
begins in a free turn or gets its turn asks for a change (`Underway.changes_begin`,
`Underway.changes_wake`, `Underway.changes_resume`). -/

namespace Shopfront.Favourites

/-- The call that a progress stands at, with its point. -/
def Progress.awaited? : Progress → Option (Awaited Point)
  | .calling call point => some ⟨call, point⟩
  | _ => none

/-- The turn of the toggle that a progress leaves waiting, for a reply or in line. -/
def Progress.turn? : Progress → Option Turn
  | .calling _ point => point.turn?
  | .queued turn _ => some turn
  | _ => none

/-- The turn of a toggle whose change is outstanding. -/
def Point.changing? : Point → Option Turn
  | .toggling turn _ _ => some turn
  | _ => none

theorem Point.turn?_of_changing? {point : Point} {turn : Turn} (h : point.changing? = some turn) :
    point.turn? = some turn := by
  cases point with
  | toggling => exact h
  | loadingIds | loadingDetails => cases h

def Progress.changing? (p : Progress) : Option Turn := p.awaited?.bind (·.point.changing?)

namespace Underway

variable {u : Underway} {place : Nat}

theorem awaited_record (u : Underway) (s : Step) :
    (u.record s).calls.awaited = u.calls.awaited ++ s.progress.awaited?.toList := by
  have harrive : ∀ u : Underway, (u.arrive s.progress).calls.awaited =
      u.calls.awaited ++ s.progress.awaited?.toList := by
    intro u
    cases s.progress <;> simp [arrive, Shopfront.Underway.record, Progress.awaited?]
  rw [record, harrive]
  cases s.woken <;> rfl

theorem filterMap_awaited_record {β : Type} (u : Underway) (s : Step)
    (g : Awaited Point → Option β) :
    (u.record s).calls.awaited.filterMap g =
      u.calls.awaited.filterMap g ++ (s.progress.awaited?.bind g).toList := by
  rw [awaited_record, List.filterMap_append]
  cases s.progress.awaited? with
  | none => rfl
  | some a => cases h : g a <;> simp [h]

/-! ## Turns -/

/-- The turns of the toggles under way. -/
def turns (u : Underway) : List Turn :=
  u.calls.awaited.filterMap (·.point.turn?) ++ (u.woken ++ u.waiting).map (·.turn)

theorem turns_wake (u : Underway) (ticket : Nat) : (u.wake ticket).turns.Perm u.turns := by
  refine List.Perm.append_left _ (List.Perm.map _ ?_)
  rw [wake, List.append_assoc]
  exact (List.filter_append_perm (·.ticket == ticket) u.waiting).append_left u.woken

theorem turns_arrive (u : Underway) (p : Progress) :
    (u.arrive p).turns.Perm (p.turn?.toList ++ u.turns) := by
  cases p with
  | calling call point =>
    simp only [arrive, turns, Shopfront.Underway.record, Progress.turn?, List.filterMap_append,
      List.append_assoc]
    cases h : point.turn? with
    | none => simp [h]
    | some turn => simp [h]
  | queued turn ticket =>
    simp only [arrive, turns, Progress.turn?, List.map_append, List.map_cons, List.map_nil,
      Option.toList_some, ← List.append_assoc]
    exact List.perm_append_singleton _ _
  | finished | stopped => exact List.Perm.refl _

/-- A step adds the toggle that it leaves waiting, and to wake one changes nothing here. -/
theorem turns_record (u : Underway) (s : Step) :
    (u.record s).turns.Perm (s.progress.turn?.toList ++ u.turns) := by
  refine (turns_arrive _ _).trans (List.Perm.append_left _ ?_)
  cases s.woken with
  | none => exact List.Perm.refl _
  | some ticket => exact u.turns_wake ticket

theorem turns_takeCall {a : Awaited Point} (h : u.calls.awaited[place]? = some a) :
    u.turns.Perm (a.point.turn?.toList ++ (u.takeCall place).turns) := by
  have hp := Shopfront.Underway.filterMap_awaited_take h (·.point.turn?)
  rw [turns, turns, ← List.append_assoc]
  exact hp.append_right _

theorem turns_takeWoken {w : Waiter} (h : u.woken[place]? = some w) :
    u.turns.Perm (w.turn :: (u.takeWoken place).turns) := by
  obtain ⟨hlt, rfl⟩ := List.getElem?_eq_some_iff.mp h
  have hp := ((List.getElem_cons_eraseIdx_perm hlt).symm.append_right u.waiting).map (·.turn)
  exact (hp.append_left _).trans List.perm_middle

/-! ## Outstanding changes -/

/-- The turns of the toggles whose change is outstanding. -/
def changes (u : Underway) : List Turn := u.calls.awaited.filterMap (·.point.changing?)

theorem changes_record (u : Underway) (s : Step) :
    (u.record s).changes = u.changes ++ s.progress.changing?.toList :=
  u.filterMap_awaited_record s (·.point.changing?)

theorem changes_takeCall (u : Underway) (place : Nat) :
    (u.takeCall place).changes.Sublist u.changes :=
  (List.eraseIdx_sublist _ _).filterMap _

theorem mem_turns_of_mem_changes {turn : Turn} (h : turn ∈ u.changes) : turn ∈ u.turns := by
  obtain ⟨a, ha, hchanging⟩ := List.mem_filterMap.mp h
  exact List.mem_append_left _
    (List.mem_filterMap.mpr ⟨a, ha, Point.turn?_of_changing? hchanging⟩)

/-- In one turn at most one change is outstanding. -/
theorem nodup_changes {queues : Queues} {next : Nat} {extra : Option Turn}
    (h : Lined queues next extra u) : u.changes.Nodup := by
  refine List.nodup_iff_count_le_one.mpr fun turn => ?_
  calc u.changes.count turn
      = u.calls.awaited.countP (·.point.changing? == some turn) := List.count_filterMap
    _ ≤ u.atWork turn := List.countP_mono_left fun a _ ha =>
        beq_iff_eq.mpr (Point.turn?_of_changing? (beq_iff_eq.mp ha))
    _ ≤ 1 := h.atWork_le_one turn

end Underway

variable {authenticated : Bool} {f : Favourites} {s : Step}

/-! ## Steps -/

/-- The turn that a request asks for. -/
def turnFor? (authenticated : Bool) (f : Favourites) : Request → Option Turn
  | .toggle product => if authenticated then product.id?.map (⟨·, f.era⟩) else none
  | _ => none

/-- The turn in which a request asks for a change at once. -/
def turnTaken? (authenticated : Bool) (f : Favourites) (request : Request) : Option Turn :=
  (turnFor? authenticated f request).filter (f.queues.isFree ·)

theorem turnFor?_eq_none {request : Request} (h : ∀ product, request ≠ .toggle product) :
    turnFor? authenticated f request = none := by
  cases request with
  | toggle product => exact absurd rfl (h product)
  | refreshIds | refreshDetails | resync => rfl

theorem turnFor?_eq_some {request : Request} {turn : Turn}
    (h : turnFor? authenticated f request = some turn) :
    authenticated = true ∧ turn.era = f.era := by
  cases request with
  | toggle product =>
    obtain ⟨hauth, h⟩ := Option.ite_none_right_eq_some.mp h
    obtain ⟨id, _, rfl⟩ := Option.map_eq_some_iff.mp h
    exact ⟨hauth, rfl⟩
  | refreshIds | refreshDetails | resync => cases h

/-- What becomes of an operation that goes on: it waits again, or it comes to its end, a toggle to
the outcome that it was coming to. -/
inductive Comes : Option (Turn × Outcome) → Progress → Prop
  | wait (call) {point : Point} : point.changing? = none → Comes point.toggle? (.calling call point)
  | finish (result) : Comes none (.finished result)
  | leave (turn outcome) : Comes (some (turn, outcome)) (.finished (.outcome outcome))

theorem Continues.comes {toggle? : Option (Turn × Outcome)}
    (h : Continues authenticated f toggle? s) : Comes toggle? s.progress := by
  induction h with
  | finish _ result => exact .finish result
  | leave _ turn outcome => exact .leave turn outcome
  | loadIds _ _ _ => exact .wait _ rfl
  | loadDetails _ _ _ => exact .wait _ rfl
  | clear _ _ ih => exact ih
  | noDetails _ ih => exact ih
  | after _ _ ih => exact ih

theorem Resumes.comes {point : Point} {p : Payload}
    (h : Resumes authenticated f point (.value p) s) :
    Comes point.toggle? s.progress := by
  induction h with
  | goOn hcont => exact hcont.comes
  | fail hvalue _ => exact absurd rfl (hvalue p)
  | abandon _ hfault _ => cases hfault
  | stop _ hfault _ => cases hfault
  | after _ _ ih => exact ih

/-- An operation that goes on is no other toggle than before, and asks for no change. -/
theorem Comes.waits {toggle? : Option (Turn × Outcome)} {p : Progress} (h : Comes toggle? p) :
    (∀ turn, p.turn? = some turn → toggle?.map (·.1) = some turn) ∧ p.changing? = none := by
  cases h with
  | wait call hchanging => exact ⟨fun _ ht => ht, hchanging⟩
  | finish result => exact ⟨fun _ ht => (by cases ht), rfl⟩
  | leave turn outcome => exact ⟨fun _ ht => (by cases ht), rfl⟩

theorem Sends.waits {turn : Turn} (h : Sends f turn s) :
    s.progress.turn? = some turn ∧ s.progress.changing? = some turn := by
  induction h with
  | remove _ => exact ⟨rfl, rfl⟩
  | add _ => exact ⟨rfl, rfl⟩
  | after _ _ ih => exact ih

theorem Begins.waits {request : Request} (h : Begins authenticated f request s) :
    s.progress.turn? = turnFor? authenticated f request ∧
      s.progress.changing? = turnTaken? authenticated f request := by
  induction h with
  | @send product id s hauth hid hfree hsends =>
    have hfor : turnFor? authenticated f (.toggle product) = some ⟨id, f.era⟩ := by
      simp [turnFor?, hauth, hid]
    rw [turnTaken?, hfor, Option.filter_some, if_pos hfree]
    exact hsends.waits
  | @queue product id hauth hid hbusy =>
    have hfor : turnFor? authenticated f (.toggle product) = some ⟨id, f.era⟩ := by
      simp [turnFor?, hauth, hid]
    rw [turnTaken?, hfor, Option.filter_some, if_neg (by simp [hbusy])]
    exact ⟨rfl, rfl⟩
  | @refuse product outcome hrefused =>
    have hfor : turnFor? authenticated f (.toggle product) = none := by
      cases authenticated with
      | false => rfl
      | true => simp [turnFor?, hrefused rfl]
    rw [turnTaken?, hfor]
    exact ⟨rfl, rfl⟩
  | load hrequest hcont =>
    rw [turnTaken?, turnFor?_eq_none hrequest]
    obtain ⟨hturn, hchanging⟩ := hcont.comes.waits
    refine ⟨Option.eq_none_iff_forall_ne_some.mpr fun turn ht => ?_, hchanging⟩
    cases hturn turn ht
  | stop _ hrequest =>
    rw [turnTaken?, turnFor?_eq_none hrequest]
    exact ⟨rfl, rfl⟩
  | after _ _ ih => exact ih

theorem Resumes.waits {point : Point} {reply : Reply} (h : Resumes authenticated f point reply s) :
    (∀ turn, s.progress.turn? = some turn → point.turn? = some turn) ∧
      s.progress.changing? = none := by
  induction h with
  | goOn hcont => exact hcont.comes.waits
  | fail _ _ => exact ⟨fun _ ht => (by cases ht), rfl⟩
  | abandon _ _ _ => exact ⟨fun _ ht => (by cases ht), rfl⟩
  | stop _ _ _ => exact ⟨fun _ ht => (by cases ht), rfl⟩
  | after _ _ ih => exact ih

namespace Underway

variable (u : Underway)

theorem turns_begin (authenticated : Bool) (f : Favourites) (request : Request) :
    (u.record (begin authenticated f request)).turns.Perm
      ((turnFor? authenticated f request).toList ++ u.turns) := by
  have hrecord := u.turns_record (begin authenticated f request)
  rwa [(begin_begins request).waits.1] at hrecord

theorem changes_begin (authenticated : Bool) (f : Favourites) (request : Request) :
    (u.record (begin authenticated f request)).changes =
      u.changes ++ (turnTaken? authenticated f request).toList := by
  rw [changes_record, (begin_begins request).waits.2]

theorem turns_woken {w : Waiter} (h : u.woken[place]? = some w) (f : Favourites) :
    ((u.takeWoken place).record (Favourites.wake f w.turn w.ticket)).turns.Perm u.turns := by
  have hrecord := (u.takeWoken place).turns_record (Favourites.wake f w.turn w.ticket)
  rw [(wake_sends w.turn w.ticket).waits.1] at hrecord
  exact hrecord.trans (turns_takeWoken h).symm

theorem changes_wake (f : Favourites) (turn : Turn) (ticket : Nat) :
    (u.record (Favourites.wake f turn ticket)).changes = u.changes ++ [turn] := by
  rw [changes_record, (wake_sends turn ticket).waits.2]
  rfl

theorem mem_turns_resume {a : Awaited Point} (h : u.calls.awaited[place]? = some a)
    (authenticated : Bool) (f : Favourites) (reply : Reply) {turn : Turn}
    (ht : turn ∈ ((u.takeCall place).record (resume authenticated f a.point reply)).turns) :
    turn ∈ u.turns := by
  rw [(turns_record _ _).mem_iff, List.mem_append, Option.mem_toList] at ht
  rw [(turns_takeCall h).mem_iff, List.mem_append, Option.mem_toList]
  exact ht.imp_left ((resume_resumes a.point reply).waits.1 turn)

theorem changes_resume (authenticated : Bool) (f : Favourites) (point : Point) (reply : Reply) :
    (u.record (resume authenticated f point reply)).changes = u.changes := by
  rw [changes_record, (resume_resumes point reply).waits.2]
  exact List.append_nil _

end Underway

end Shopfront.Favourites
