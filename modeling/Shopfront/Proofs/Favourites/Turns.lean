import Mathlib.Data.List.Nodup
import Mathlib.Data.List.Perm.Basic
import Shopfront.Proofs.Favourites.Transition

/-! Toggles of one product take turns. A turn is free, or held by the one toggle at work in it, or
handed over to the one toggle that was woken and goes to work next; all others wait in line. Main
statements: every step of an operation keeps it so (`Lined.begin`, `Lined.wake`, `Lined.resume`), so
that no two toggles are at work in one turn (`Lined.atWork_le_one`). -/

namespace Shopfront.Favourites

/-! ## One turn -/

/-- How a turn stands: its queue, how many toggles are at work in it, the tickets of those that were
woken, and of those that wait. -/
inductive Lane (turn : Turn) : Queues → Nat → List Nat → List Nat → Prop
  | free : Lane turn [] 0 [] []
  | held (line) : Lane turn [⟨turn, true, line⟩] 1 [] line
  | handed (ticket line) : Lane turn [⟨turn, false, ticket :: line⟩] 0 [ticket] line

namespace Queues

variable {turn t : Turn} {qs : Queues}

def ofTurn (turn : Turn) (qs : Queues) : Queues := qs.filter (·.turn == turn)

theorem isFree_iff : qs.isFree turn = true ↔ qs.ofTurn turn = [] := by
  simp [isFree, ofTurn]

theorem ofTurn_take (qs : Queues) :
    (qs.take t).ofTurn turn =
      if t = turn then qs.ofTurn turn ++ [⟨t, true, []⟩] else qs.ofTurn turn := by
  split
  · next h => simp [take, ofTurn, h]
  · next h => simp [take, ofTurn, h]

theorem ofTurn_map {f : Queue → Queue} (hf : ∀ q, (f q).turn = q.turn) (qs : Queues) :
    ofTurn turn (qs.map f) = (qs.ofTurn turn).map f := by
  rw [ofTurn, List.filter_map]
  simp [Function.comp_def, hf, ofTurn]

theorem ofTurn_wait (ticket : Nat) (qs : Queues) :
    (qs.wait t ticket).ofTurn turn = (qs.ofTurn turn).wait t ticket :=
  ofTurn_map (fun q => by split <;> rfl) qs

theorem ofTurn_enter (ticket : Nat) (qs : Queues) :
    (qs.enter t ticket).ofTurn turn = (qs.ofTurn turn).enter t ticket :=
  ofTurn_map (fun q => by split <;> rfl) qs

theorem ofTurn_leave (qs : Queues) : (qs.leave t).ofTurn turn = (qs.ofTurn turn).leave t := by
  unfold leave
  rw [← ofTurn_map (fun q => by split <;> rfl), ofTurn, ofTurn, List.filter_filter,
    List.filter_filter]
  simp only [Bool.and_comm]

theorem first?_eq (qs : Queues) :
    qs.first? turn = (qs.ofTurn turn).head?.bind (·.waiting.head?) := by
  rw [first?, ofTurn, List.head?_filter]

end Queues

variable {turn t : Turn} {qs : Queues} {active : Nat} {woken waiting : List Nat}

/-- What other turns do is of no concern to a turn. -/
theorem Lane.leave_of_ne (h : Lane turn qs active woken waiting) (hne : turn ≠ t) :
    Lane turn (qs.leave t) active woken waiting := by
  cases h with
  | free => exact .free
  | held => simpa [Queues.leave, hne] using Lane.held waiting
  | handed ticket => simpa [Queues.leave, hne] using Lane.handed ticket waiting

theorem Lane.wait_of_ne (h : Lane turn qs active woken waiting) (hne : turn ≠ t) (ticket : Nat) :
    Lane turn (qs.wait t ticket) active woken waiting := by
  cases h with
  | free => exact .free
  | held => simpa [Queues.wait, hne] using Lane.held waiting
  | handed first => simpa [Queues.wait, hne] using Lane.handed first waiting

theorem Lane.enter_of_ne (h : Lane turn qs active woken waiting) (hne : turn ≠ t) (ticket : Nat) :
    Lane turn (qs.enter t ticket) active woken waiting := by
  cases h with
  | free => exact .free
  | held => simpa [Queues.enter, hne] using Lane.held waiting
  | handed first => simpa [Queues.enter, hne] using Lane.handed first waiting

theorem Lane.eq_of_perm (h : Lane turn qs active woken waiting) {woken' : List Nat}
    (hp : woken'.Perm woken) : woken' = woken := by
  cases h with
  | free => exact hp.eq_nil
  | held => exact hp.eq_nil
  | handed ticket => exact List.perm_singleton.mp hp

theorem Lane.active_le_one (h : Lane turn qs active woken waiting) : active ≤ 1 := by
  cases h <;> decide

theorem Lane.take (h : Lane turn [] active woken waiting) :
    active = 0 ∧ Lane turn [⟨turn, true, []⟩] 1 woken waiting := by
  cases h with
  | free => exact ⟨rfl, .held []⟩

/-- A turn that is handed over is nobody's to work in until it is entered. -/
theorem Lane.enter (h : Lane turn qs active woken waiting) {ticket : Nat} (hw : ticket ∈ woken) :
    active = 0 ∧ woken = [ticket] ∧ Lane turn (qs.enter turn ticket) 1 [] waiting := by
  cases h with
  | free => cases hw
  | held => cases hw
  | handed first =>
    cases List.mem_singleton.mp hw
    refine ⟨rfl, rfl, ?_⟩
    simpa [Queues.enter] using Lane.held waiting

theorem Lane.wait (h : Lane turn qs active woken waiting) (hq : qs ≠ []) (ticket : Nat) :
    Lane turn (qs.wait turn ticket) active woken (waiting ++ [ticket]) := by
  cases h with
  | free => exact absurd rfl hq
  | held => simpa [Queues.wait] using Lane.held (waiting ++ [ticket])
  | handed first => simpa [Queues.wait] using Lane.handed first (waiting ++ [ticket])

/-- A turn that is left is free if nobody waits for it, and else it is handed over. -/
theorem Lane.leave (h : Lane turn qs 1 woken waiting) : woken = [] ∧
    (qs.head?.bind (·.waiting.head?)) = waiting.head? ∧
      Lane turn (qs.leave turn) 0 waiting.head?.toList waiting.tail := by
  cases h with
  | held =>
    refine ⟨rfl, rfl, ?_⟩
    cases waiting with
    | nil => simpa [Queues.leave] using Lane.free
    | cons ticket line => simpa [Queues.leave] using Lane.handed ticket line

/-! ## All turns -/

/-- The tickets of those that are up for a turn. -/
def ticketsFor (turn : Turn) (waiters : List Waiter) : List Nat :=
  (waiters.filter (·.turn == turn)).map (·.ticket)

theorem ticketsFor_append (turn : Turn) (ws ws' : List Waiter) :
    ticketsFor turn (ws ++ ws') = ticketsFor turn ws ++ ticketsFor turn ws' := by simp [ticketsFor]

theorem ticketsFor_cons (turn : Turn) (w : Waiter) (ws : List Waiter) :
    ticketsFor turn (w :: ws) =
      if w.turn = turn then w.ticket :: ticketsFor turn ws else ticketsFor turn ws := by
  by_cases h : w.turn = turn <;> simp [ticketsFor, h]

theorem ticketsFor_filter (turn : Turn) (p : Nat → Bool) (ws : List Waiter) :
    ticketsFor turn (ws.filter fun w => p w.ticket) = (ticketsFor turn ws).filter p := by
  simp only [ticketsFor, List.filter_map, List.filter_filter, Function.comp_def]
  simp only [Bool.and_comm]

theorem ticketsFor_sublist (turn : Turn) (ws : List Waiter) :
    (ticketsFor turn ws).Sublist (ws.map (·.ticket)) := List.filter_sublist.map _

/-- A ticket is for one turn. -/
theorem not_mem_ticketsFor {ws : List Waiter} (hd : (ws.map (·.ticket)).Nodup) {ticket : Nat}
    (h : ticket ∈ ticketsFor t ws) (hne : turn ≠ t) : ticket ∉ ticketsFor turn ws := by
  intro h'
  obtain ⟨w, hw, rfl⟩ := List.mem_map.mp h
  obtain ⟨w', hw', he⟩ := List.mem_map.mp h'
  obtain ⟨hw, ht⟩ := List.mem_filter.mp hw
  obtain ⟨hw', ht'⟩ := List.mem_filter.mp hw'
  obtain rfl := List.inj_on_of_nodup_map hd hw' hw he
  exact hne ((beq_iff_eq.mp ht').symm.trans (beq_iff_eq.mp ht))

namespace Underway

/-- How many toggles are at work in a turn. -/
def atWork (turn : Turn) (u : Underway) : Nat :=
  u.calls.awaited.countP (·.point.turn? == some turn)

theorem atWork_takeCall {u : Underway} {place : Nat} {a : Awaited Point}
    (h : u.calls.awaited[place]? = some a) (turn : Turn) :
    u.atWork turn = (u.takeCall place).atWork turn + if a.point.turn? = some turn then 1 else 0 := by
  obtain ⟨hlt, rfl⟩ := List.getElem?_eq_some_iff.mp h
  have hp := (List.getElem_cons_eraseIdx_perm hlt).countP_eq (·.point.turn? == some turn)
  simp only [List.countP_cons, beq_iff_eq] at hp
  exact hp.symm

/-- The first in line for a turn is woken. -/
theorem ticketsFor_wake {u : Underway} (hd : (u.waiting.map (·.ticket)).Nodup) {ticket : Nat}
    {line : List Nat} (h : ticketsFor t u.waiting = ticket :: line) (turn : Turn) :
    ticketsFor turn (u.wake ticket).waiting =
        (if turn = t then line else ticketsFor turn u.waiting) ∧
      ticketsFor turn (u.wake ticket).woken =
        ticketsFor turn u.woken ++ if turn = t then [ticket] else [] := by
  have split_line : ∀ {line : List Nat}, ticket ∉ line →
      line.filter (· != ticket) = line ∧ line.filter (· == ticket) = [] := by
    intro line hnew
    refine ⟨List.filter_eq_self.mpr fun n hn => ?_, List.filter_eq_nil_iff.mpr fun n hn he => ?_⟩
    · exact bne_iff_ne.mpr fun he => hnew (he ▸ hn)
    · exact hnew (beq_iff_eq.mp he ▸ hn)
  simp only [wake, ticketsFor_append, ticketsFor_filter turn (· == ticket),
    ticketsFor_filter turn (· != ticket)]
  by_cases hturn : turn = t
  · subst hturn
    have hnodup : (ticket :: line).Nodup := h ▸ hd.sublist (ticketsFor_sublist turn _)
    obtain ⟨hkeep, hone⟩ := split_line (List.nodup_cons.mp hnodup).1
    simp [h, hkeep, hone]
  · obtain ⟨hkeep, hone⟩ := split_line (not_mem_ticketsFor hd (h ▸ List.mem_cons_self) hturn)
    simp [hturn, hkeep, hone]

end Underway

/-- Every turn stands as it should, every ticket is given out once, and every operation waits for the
call that belongs to its point. One more toggle, in the turn `extra`, may be between two calls. -/
structure Lined (queues : Queues) (next : Nat) (extra : Option Turn) (u : Underway) : Prop where
  lanes : ∀ turn, Lane turn (queues.ofTurn turn)
    (u.atWork turn + if extra = some turn then 1 else 0) (ticketsFor turn u.woken)
    (ticketsFor turn u.waiting)
  distinct : (u.waiting.map (·.ticket)).Nodup
  fresh : ∀ w ∈ u.waiting, w.ticket < next
  asks : ∀ a ∈ u.calls.awaited, Asks a.call a.point

theorem lined_idle (next : Nat) : Lined [] next none .idle :=
  ⟨fun _ => .free, List.nodup_nil, (fun _ h => nomatch h), fun _ h => nomatch h⟩

variable {queues : Queues} {next : Nat} {u : Underway}

theorem Lined.atWork_le_one {extra : Option Turn} (h : Lined queues next extra u) (turn : Turn) :
    u.atWork turn ≤ 1 :=
  Nat.le_trans (Nat.le_add_right _ _) (h.lanes turn).active_le_one

/-- Nobody is at work in a free turn. -/
theorem Lined.atWork_of_free (h : Lined queues next none u) (hfree : queues.isFree t = true) :
    u.atWork t = 0 := by
  have hlane := h.lanes t
  rw [Queues.isFree_iff.mp hfree] at hlane
  exact hlane.take.1

/-- Nobody is at work in a turn that is handed over. -/
theorem Lined.atWork_of_woken (h : Lined queues next none u) {w : Waiter} (hw : w ∈ u.woken) :
    u.atWork w.turn = 0 := by
  have hmem : w.ticket ∈ ticketsFor w.turn u.woken :=
    List.mem_map.mpr ⟨w, List.mem_filter.mpr ⟨hw, beq_self_eq_true _⟩, rfl⟩
  exact ((h.lanes w.turn).enter hmem).1

theorem Lined.takeCall (h : Lined queues next none u) {place : Nat} {a : Awaited Point}
    (ha : u.calls.awaited[place]? = some a) :
    Lined queues next a.point.turn? (u.takeCall place) := by
  refine ⟨fun turn => ?_, h.distinct, h.fresh, fun b hb => ?_⟩
  · have hlane := h.lanes turn
    rw [Underway.atWork_takeCall ha] at hlane
    exact hlane
  · exact h.asks b ((Underway.mem_awaited_take ha b).mpr (.inr hb))

theorem Lined.call {point : Point} (h : Lined queues next point.turn? u) {call : Call}
    (hasks : Asks call point) : Lined queues next none (u.arrive (.calling call point)) := by
  refine ⟨fun turn => ?_, h.distinct, h.fresh, fun a ha => ?_⟩
  · have hcount : (u.arrive (.calling call point)).atWork turn =
        u.atWork turn + if point.turn? = some turn then 1 else 0 := by
      show (u.calls.awaited ++ [_]).countP _ = _
      simp [Underway.atWork, List.countP_cons]
    rw [hcount]
    exact h.lanes turn
  · rcases List.mem_append.mp ha with ha | ha
    · exact h.asks a ha
    · cases List.mem_singleton.mp ha
      exact hasks

/-- The toggle at work leaves its turn; the first of those in line is woken. -/
theorem Lined.leave (h : Lined queues next (some t) u) :
    Lined (queues.leave t) next none (((queues.first? t).map u.wake).getD u) := by
  have hlane := h.lanes t
  have hidle : u.atWork t = 0 := by
    have := hlane.active_le_one
    rw [if_pos rfl] at this
    omega
  rw [hidle, if_pos rfl] at hlane
  obtain ⟨hwoken, hfirst, hleft⟩ := hlane.leave
  rw [Queues.first?_eq, hfirst]
  have others : ∀ {turn}, turn ≠ t →
      Lane turn ((queues.leave t).ofTurn turn) (u.atWork turn) (ticketsFor turn u.woken)
        (ticketsFor turn u.waiting) := by
    intro turn hne
    have hother := h.lanes turn
    rw [if_neg fun he => hne (Option.some.inj he).symm] at hother
    rw [Queues.ofTurn_leave]
    exact hother.leave_of_ne hne
  cases hline : ticketsFor t u.waiting with
  | nil =>
    refine ⟨fun turn => ?_, h.distinct, h.fresh, h.asks⟩
    show Lane turn _ (u.atWork turn) (ticketsFor turn u.woken) (ticketsFor turn u.waiting)
    by_cases hturn : turn = t
    · subst hturn
      rw [hline] at hleft ⊢
      rw [Queues.ofTurn_leave, hidle, hwoken]
      exact hleft
    · exact others hturn
  | cons ticket line =>
    have hwake := Underway.ticketsFor_wake h.distinct hline
    refine ⟨fun turn => ?_, h.distinct.sublist (List.filter_sublist.map _), fun w hw => ?_, h.asks⟩
    · show Lane turn _ (u.atWork turn) (ticketsFor turn (u.wake ticket).woken)
        (ticketsFor turn (u.wake ticket).waiting)
      rw [(hwake turn).1, (hwake turn).2]
      by_cases hturn : turn = t
      · subst hturn
        rw [hline] at hleft
        rw [if_pos rfl, if_pos rfl, Queues.ofTurn_leave, hidle, hwoken]
        exact hleft
      · rw [if_neg hturn, if_neg hturn, List.append_nil]
        exact others hturn
    · exact h.fresh w (List.mem_filter.mp hw).1

/-- A woken toggle enters its turn. -/
theorem Lined.enter (h : Lined queues next none u) {place : Nat} {w : Waiter}
    (hw : u.woken[place]? = some w) :
    Lined (queues.enter w.turn w.ticket) next (some w.turn) (u.takeWoken place) := by
  obtain ⟨hlt, rfl⟩ := List.getElem?_eq_some_iff.mp hw
  have hperm : ∀ turn, (ticketsFor turn (u.woken[place] :: u.woken.eraseIdx place)).Perm
      (ticketsFor turn u.woken) :=
    fun turn => ((List.getElem_cons_eraseIdx_perm hlt).filter _).map _
  refine ⟨fun turn => ?_, h.distinct, h.fresh, h.asks⟩
  show Lane turn _ (u.atWork turn + _) (ticketsFor turn (u.woken.eraseIdx place))
    (ticketsFor turn u.waiting)
  rw [Queues.ofTurn_enter]
  have hlane := h.lanes turn
  rw [← hlane.eq_of_perm (hperm turn), ticketsFor_cons] at hlane
  by_cases hturn : u.woken[place].turn = turn
  · subst hturn
    rw [if_pos rfl] at hlane
    obtain ⟨hidle, hone, hentered⟩ := hlane.enter List.mem_cons_self
    rw [(List.cons.inj hone).2, if_pos rfl, show u.atWork _ = 0 from hidle]
    exact hentered
  · rw [if_neg hturn] at hlane
    rw [if_neg fun he => hturn (Option.some.inj he)]
    exact hlane.enter_of_ne (Ne.symm hturn) _

theorem Lined.take (h : Lined queues next none u) (hfree : queues.isFree t = true) :
    Lined (queues.take t) next (some t) u := by
  refine ⟨fun turn => ?_, h.distinct, h.fresh, h.asks⟩
  have hlane := h.lanes turn
  rw [Queues.ofTurn_take]
  by_cases hturn : t = turn
  · subst hturn
    rw [Queues.isFree_iff.mp hfree] at hlane ⊢
    obtain ⟨hidle, htaken⟩ := hlane.take
    rw [if_pos rfl, if_pos rfl, show u.atWork t = 0 from hidle]
    exact htaken
  · rw [if_neg hturn, if_neg fun he => hturn (Option.some.inj he)]
    exact hlane

/-- A toggle gets in line for a turn that is not free. -/
theorem Lined.wait (h : Lined queues next none u) (hbusy : queues.isFree t = false) :
    Lined (queues.wait t next) (next + 1) none (u.arrive (.queued t next)) := by
  refine ⟨fun turn => ?_, ?_, fun w hw => ?_, h.asks⟩
  · show Lane turn _ (u.atWork turn) (ticketsFor turn u.woken)
      (ticketsFor turn (u.waiting ++ [⟨t, next⟩]))
    have hlane := h.lanes turn
    rw [Queues.ofTurn_wait, ticketsFor_append, ticketsFor_cons]
    by_cases hturn : t = turn
    · subst hturn
      rw [if_pos rfl]
      refine hlane.wait (fun hnil => ?_) next
      rw [Queues.isFree_iff.mpr hnil] at hbusy
      cases hbusy
    · rw [if_neg hturn]
      show Lane turn _ _ _ (ticketsFor turn u.waiting ++ [])
      rw [List.append_nil]
      exact hlane.wait_of_ne (Ne.symm hturn) next
  · show (List.map Waiter.ticket (u.waiting ++ [⟨t, next⟩])).Nodup
    rw [List.map_append]
    refine List.nodup_append.mpr ⟨h.distinct, List.nodup_singleton _, fun n hn m hm => ?_⟩
    obtain ⟨w, hw, rfl⟩ := List.mem_map.mp hn
    cases List.mem_singleton.mp hm
    exact Nat.ne_of_lt (h.fresh w hw)
  · rcases List.mem_append.mp hw with hw | hw
    · exact Nat.lt_succ_of_lt (h.fresh w hw)
    · cases List.mem_singleton.mp hw
      exact Nat.lt_succ_self next

/-! ## Steps -/

variable {authenticated : Bool} {f : Favourites}

/-- Every turn stands as it should when a step has been recorded. -/
def LinedStep (u : Underway) (s : Step) : Prop :=
  Lined s.state.queues s.state.tickets none (u.record s)

theorem Continues.lined {toggle? : Option (Turn × Outcome)} {s : Step}
    (hs : Continues authenticated f toggle? s)
    (h : Lined f.queues f.tickets (toggle?.map (·.1)) u) : LinedStep u s := by
  induction hs with
  | finish _ _ => exact ⟨h.lanes, h.distinct, h.fresh, h.asks⟩
  | leave _ _ _ =>
    have hleft := h.leave
    exact ⟨hleft.lanes, hleft.distinct, hleft.fresh, hleft.asks⟩
  | loadIds _ next _ => exact h.call (.ids next)
  | loadDetails _ wanted next => exact h.call (.details wanted next)
  | clear _ _ ih => exact ih h
  | noDetails _ ih => exact ih h
  | after _ _ ih => exact ih h

theorem Sends.lined {turn : Turn} {s : Step} (hs : Sends f turn s)
    (h : Lined f.queues f.tickets (some turn) u) : LinedStep u s := by
  induction hs with
  | remove _ => exact h.call (.remove turn f.ids)
  | add _ => exact h.call (.add turn f.ids)
  | after _ _ ih => exact ih

theorem Lined.begin (h : Lined f.queues f.tickets none u) (authenticated : Bool)
    (request : Request) : LinedStep u (begin authenticated f request) := by
  suffices hb : ∀ {s}, Begins authenticated f request s → LinedStep u s from hb (begin_begins _)
  intro s hs
  induction hs with
  | send _ _ hfree hsends => exact hsends.lined (h.take hfree)
  | queue _ _ hbusy => exact h.wait hbusy
  | refuse _ => exact ⟨h.lanes, h.distinct, h.fresh, h.asks⟩
  | load _ hcont => exact hcont.lined h
  | stop _ _ => exact ⟨h.lanes, h.distinct, h.fresh, h.asks⟩
  | after _ _ ih => exact ih

theorem Lined.wake (h : Lined f.queues f.tickets none u) {place : Nat} {w : Waiter}
    (hw : u.woken[place]? = some w) :
    LinedStep (u.takeWoken place) (wake f w.turn w.ticket) :=
  (wake_sends w.turn w.ticket).lined (h.enter hw)

theorem Lined.resume (h : Lined f.queues f.tickets none u) {place : Nat} {a : Awaited Point}
    (ha : u.calls.awaited[place]? = some a) (authenticated : Bool) (reply : Reply) :
    LinedStep (u.takeCall place) (resume authenticated f a.point reply) := by
  have htaken : Lined (received f a.point reply).queues (received f a.point reply).tickets
      a.point.turn? (u.takeCall place) := by simpa using h.takeCall ha
  suffices hr : ∀ {s}, Resumes authenticated f a.point reply s → LinedStep (u.takeCall place) s from
    hr (resume_resumes _ _)
  intro s hs
  induction hs with
  | goOn hcont => exact hcont.lined htaken
  | fail _ hturn | abandon _ _ hturn =>
    rw [hturn] at htaken
    have hleft := htaken.leave
    exact ⟨hleft.lanes, hleft.distinct, hleft.fresh, hleft.asks⟩
  | stop _ _ hturn =>
    rw [hturn] at htaken
    exact ⟨htaken.lanes, htaken.distinct, htaken.fresh, htaken.asks⟩
  | after _ _ ih => exact ih

end Shopfront.Favourites
