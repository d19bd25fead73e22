import Mathlib.Logic.Basic
import Shopfront.Proofs.Favourites.Exchange

/-! Toggles of a product alternate. Toggles of any products overlap at a store and a backend that
answers it. Main statement: once all toggles have ended, those of a product have come to `removed`
and `added` in turns, the backend keeps what they have made of it, and the store lists what the
backend keeps (`alternating_of_ended`). -/

namespace Shopfront.Favourites

/-! ## What a step does to the tally -/

variable {f : Favourites} {s : Step} {start ids favourites : List Int} {log : List (Int × Outcome)}
  {u : Underway} {place : Nat}

theorem Point.isPast_of_changing? {point : Point} (h : point.changing? = none) : point.IsPast := by
  cases point with
  | toggling => cases h
  | loadingIds | loadingDetails => rfl

/-- The point of an operation that is no toggle counts for nothing. -/
theorem Comes.ofToggle? {p : Progress} (h : Comes none p) :
    p.awaited?.bind (·.point.ofToggle?) = none := by
  generalize htoggle : none = toggle? at h
  cases h with
  | @wait call point _ =>
    show point.ofToggle? = none
    rw [Point.ofToggle?, ← htoggle]
    rfl
  | finish result => rfl
  | leave turn outcome => cases htoggle

theorem Tallied.waits (h : Tallied start ids favourites log u.points)
    (hs : s.progress.awaited?.bind (·.point.ofToggle?) = none) :
    Tallied start ids favourites log (u.record s).points := by
  rw [Underway.points_record, hs, Option.toList_none, List.append_nil]
  exact h

theorem Sends.tallied {turn : Turn} (hs : Sends f turn s)
    (h : Tallied start f.ids favourites log u.points)
    (hidle : turn.product ∉ u.points.filterMap Point.product?) :
    Tallied start s.state.ids favourites log (u.record s).points := by
  obtain ⟨call, hawaits⟩ := hs.awaits
  rw [hs.ids, Underway.points_record, hawaits]
  exact (h.send hidle f.ids).perm (List.perm_append_singleton _ _).symm

theorem Begins.tallied {request : Request} (hs : Begins true f request s)
    (h : Tallied start f.ids favourites log u.points)
    (hidle : ∀ turn, f.queues.isFree turn = true → turn.era = f.era →
      turn.product ∉ u.points.filterMap Point.product?) :
    Tallied start s.state.ids favourites log (u.record s).points := by
  induction hs with
  | send _ _ hfree hsends => exact hsends.tallied h (hidle _ hfree rfl)
  | queue _ _ _ => exact h.waits rfl
  | refuse _ => exact h.waits rfl
  | load _ hcont =>
    rw [hcont.ids]
    exact h.waits hcont.comes.ofToggle?
  | stop _ _ => exact h.waits rfl
  | after _ _ ih => exact ih

/-- An operation that asks for no change goes on. -/
theorem Comes.tallied {a : Awaited Point} (hs : Comes a.point.toggle? s.progress)
    (ha : u.calls.awaited[place]? = some a) (h : Tallied start ids favourites log u.points)
    (hpast : a.point.IsPast) (hlisted : ids = favourites ∨ a.point.owed? = none) :
    Tallied start ids favourites (log ++ (a.point.ended? s.progress).toList)
      ((u.takeCall place).record s).points := by
  have htaken := h.perm (u.points_takeCall ha)
  rw [Underway.points_record]
  generalize s.progress = p at hs ⊢
  generalize htoggle : a.point.toggle? = toggle? at hs
  cases hs with
  | @wait call point hchanging =>
    show Tallied start ids favourites (log ++ [])
      ((u.takeCall place).points ++ point.ofToggle?.toList)
    rw [List.append_nil]
    cases hpoint : point.toggle? with
    | none =>
      rw [hpoint] at htoggle
      have hgone : a.point.ofToggle? = none := by rw [Point.ofToggle?, htoggle]; rfl
      have hnone : point.ofToggle? = none := by rw [Point.ofToggle?, hpoint]; rfl
      rw [hgone] at htaken
      rw [hnone, Option.toList_none, List.append_nil]
      exact htaken
    | some toggle =>
      have hgone : a.point.ofToggle? = some a.point := by
        rw [Point.ofToggle?, htoggle, hpoint]
        rfl
      have hnew : point.ofToggle? = some point := by
        rw [Point.ofToggle?, hpoint]
        rfl
      rw [hgone] at htaken
      rw [hnew]
      exact (htaken.goOn hpast hlisted (Point.isPast_of_changing? hchanging) htoggle.symm).perm
        (List.perm_append_singleton _ _).symm
  | finish result =>
    have hgone : a.point.ofToggle? = none := by rw [Point.ofToggle?, htoggle]; rfl
    have hended : a.point.ended? (.finished result) = none := by
      cases result with
      | ids | products => rfl
      | outcome outcome =>
        rw [Point.ended?, Point.product?, Point.turn?, htoggle]
        rfl
    rw [hgone] at htaken
    rw [hended]
    show Tallied start ids favourites (log ++ []) ((u.takeCall place).points ++ [])
    rw [List.append_nil, List.append_nil]
    exact htaken
  | leave turn outcome =>
    have hgone : a.point.ofToggle? = some a.point := by rw [Point.ofToggle?, htoggle]; rfl
    have hended : a.point.ended? (.finished (.outcome outcome)) = some (turn.product, outcome) := by
      rw [Point.ended?, Point.product?, Point.turn?, htoggle]
      rfl
    have hentry : a.point.outcome? = some (turn.product, outcome) := by
      rw [Point.outcome?, htoggle]
      rfl
    rw [hgone] at htaken
    rw [hended]
    show Tallied start ids favourites (log ++ [_]) ((u.takeCall place).points ++ [])
    rw [List.append_nil]
    exact htaken.finish hpast hlisted hentry

/-- The change of a toggle is answered, and the toggle asks for the ids. -/
theorem Tallied.changed {a : Awaited Point} {turn : Turn} {before : List Int} {outcome : Outcome}
    (h : Tallied start ids favourites log u.points) (ha : u.calls.awaited[place]? = some a)
    (hpoint : a.point = .toggling turn before outcome)
    {favourites' : List Int} (hflip : ∀ product, decide (product ∈ favourites') =
      if product = turn.product then !decide (product ∈ favourites)
      else decide (product ∈ favourites))
    {call : Call} (hs : s.progress = .calling call (.loadingIds (.toggled turn before outcome))) :
    Tallied start ids favourites' (log ++ (a.point.ended? s.progress).toList)
      ((u.takeCall place).record s).points := by
  have htaken := h.perm (u.points_takeCall ha)
  rw [hpoint] at htaken
  rw [Underway.points_record, hs]
  show Tallied start ids favourites' (log ++ []) _
  rw [List.append_nil]
  exact (htaken.change hflip).perm (List.perm_append_singleton _ _).symm

/-! ## The account of the toggles -/

/-- A toggle that goes on stays under way, and one that ends is logged. -/
theorem Comes.accounted {point : Point} {p : Progress} (hs : Comes point.toggle? p) :
    (point.ended? p).toList.map (·.1) ++ p.turn?.toList.map (·.product) =
      point.turn?.toList.map (·.product) := by
  generalize htoggle : point.toggle? = toggle? at hs
  cases hs with
  | @wait call point' _ =>
    have hturn : point.turn? = point'.turn? := by rw [Point.turn?, htoggle, Point.turn?]
    rw [hturn]
    rfl
  | finish result =>
    have hturn : point.turn? = none := by rw [Point.turn?, htoggle]; rfl
    have hended : point.ended? (.finished result) = none := by
      cases result with
      | ids | products => rfl
      | outcome outcome => rw [Point.ended?, Point.product?, hturn]; rfl
    rw [hturn, hended]
    rfl
  | leave turn outcome =>
    have hturn : point.turn? = some turn := by rw [Point.turn?, htoggle]; rfl
    rw [Point.ended?, Point.product?, hturn]
    rfl

theorem Asks.value {call : Call} {point : Point} (h : Asks call point) (m : Memory) :
    ∃ p, (m.act call).2 = .value p := by
  cases h <;> exact ⟨_, rfl⟩

namespace Exchange

/-- The exchange is in order: its turns stand as they should and are of the era of the store, the
backend fails at nothing and lists no product twice, the tally is right, and every toggle asked for
has ended or is under way. -/
structure Kept (start asked : List Int) (x : Exchange) : Prop where
  lined : Lined x.store.queues x.store.tickets none x.underway
  current : ∀ turn ∈ x.underway.turns, turn.era = x.store.era
  reliable : x.memory.failures = []
  distinct : x.memory.favourites.Nodup
  tallied : Tallied start x.store.ids x.memory.favourites x.outcomes x.underway.points
  accounted : asked.Perm (x.outcomes.map (·.1) ++ x.underway.turns.map (·.product))

variable {asked : List Int} {x : Exchange}

theorem Kept.begin (h : Kept start asked x) (request : Request) :
    Kept start (asked ++ (Event.begin request).product?.toList) (x.handle (.begin request)) := by
  have hbegins : Begins true x.store request (Favourites.begin true x.store request) :=
    begin_begins request
  have hturns := x.underway.turns_begin true x.store request
  have hproduct : (turnFor? true x.store request).map (·.product) =
      (Event.begin request).product? := by
    cases request with
    | toggle product =>
      show (product.id?.map _).map _ = product.id?
      simp [Function.comp_def]
    | refreshIds | refreshDetails | resync => rfl
  refine ⟨h.lined.begin true request, fun turn hturn => ?_, h.reliable, h.distinct, ?_, ?_⟩
  · refine Eq.trans ?_ hbegins.era.symm
    have hmem := hturns.mem_iff.mp hturn
    rw [List.mem_append, Option.mem_toList] at hmem
    exact hmem.elim (fun hnew => (turnFor?_eq_some hnew).2) (h.current turn)
  · refine hbegins.tallied h.tallied fun turn hfree hera => ?_
    refine Underway.idle_of_atWork (fun t ht => ?_) (h.lined.atWork_of_free hfree)
    exact (h.current t ht).trans hera.symm
  · refine List.Perm.trans ?_ ((hturns.map (·.product)).symm.append_left _)
    rw [List.map_append, ← Option.toList_map, hproduct]
    refine (h.accounted.append_right _).trans ?_
    rw [List.append_assoc]
    exact List.perm_append_comm.append_left _

theorem Kept.turn (h : Kept start asked x) {place : Nat} {w : Waiter}
    (hw : x.underway.woken[place]? = some w) : Kept start asked (x.handle (.turn place)) := by
  rw [handle_turn hw]
  have hsends := wake_sends (f := x.store) w.turn w.ticket
  have hmem := List.mem_of_getElem? hw
  have hturns := x.underway.turns_woken hw x.store
  have hera : w.turn.era = x.store.era := h.current _ (List.mem_append_right _
    (List.mem_map.mpr ⟨w, List.mem_append_left _ hmem, rfl⟩))
  refine ⟨h.lined.wake hw, fun turn hturn => ?_, h.reliable, h.distinct, ?_, ?_⟩
  · exact (h.current turn (hturns.mem_iff.mp hturn)).trans hsends.era.symm
  · refine hsends.tallied (u := x.underway.takeWoken place) h.tallied ?_
    refine Underway.idle_of_atWork (u := x.underway) (fun t ht => ?_) (h.lined.atWork_of_woken hmem)
    exact (h.current t ht).trans hera.symm
  · exact h.accounted.trans ((hturns.map (·.product)).symm.append_left _)

/-- What the answer to a call does to the backend and to the tally. -/
theorem Kept.answered (h : Kept start asked x) {place : Nat} {a : Awaited Point}
    (ha : x.underway.calls.awaited[place]? = some a) :
    let s := resume true x.store a.point (x.memory.act a.call).2
    (x.memory.act a.call).1.failures = [] ∧ (x.memory.act a.call).1.favourites.Nodup ∧
      Tallied start s.state.ids (x.memory.act a.call).1.favourites
        (x.outcomes ++ (a.point.ended? s.progress).toList)
        ((x.underway.takeCall place).record s).points := by
  have hasks := h.lined.asks a (List.mem_of_getElem? ha)
  have htaken := h.tallied.perm (x.underway.points_takeCall ha)
  obtain ⟨call, point⟩ := a
  cases hasks with
  | ids next =>
    intro s
    have hcont : Continues true (received x.store (.loadingIds next)
        (.value x.memory.favouritesPayload)) (Point.loadingIds next).toggle? s :=
      .after _ (afterIds_continues next)
    have hids : s.state.ids = x.memory.favourites :=
      hcont.ids.trans (idsOf_favouritesPayload_of_nodup h.distinct)
    refine ⟨h.reliable, h.distinct, ?_⟩
    rw [hids]
    exact hcont.comes.tallied ha h.tallied.load rfl (.inl rfl)
  | details wanted next =>
    intro s
    have hcont : Continues true (received x.store (.loadingDetails wanted next)
        (x.memory.act (.getProductsBatch wanted)).2) (Point.loadingDetails wanted next).toggle? s :=
      .after _ (afterDetails_continues wanted next)
    have hids : s.state.ids = x.store.ids := hcont.ids
    refine ⟨h.reliable, h.distinct, ?_⟩
    rw [hids]
    exact hcont.comes.tallied ha h.tallied rfl (.inr rfl)
  | remove turn before =>
    have hmem : turn.product ∈ x.memory.favourites := by
      by_contra hmem
      have houtcome := htaken.outcome_eq
      rw [decide_eq_false hmem] at houtcome
      cases houtcome
    refine ⟨h.reliable, Memory.nodup_act_removeFavourite h.distinct _, ?_⟩
    refine h.tallied.changed ha rfl (fun product => ?_) rfl
    have hchange := Memory.mem_act_removeFavourite h.distinct turn.product product
    by_cases hp : product = turn.product
    · subst hp
      simp [hchange, hmem]
    · simp [hchange, hp]
  | add turn before =>
    have hmem : turn.product ∉ x.memory.favourites := by
      intro hmem
      have houtcome := htaken.outcome_eq
      rw [decide_eq_true hmem] at houtcome
      cases houtcome
    refine ⟨h.reliable, Memory.nodup_act_addFavourite h.distinct hmem, ?_⟩
    refine h.tallied.changed ha rfl (fun product => ?_) rfl
    have hchange := Memory.mem_act_addFavourite hmem product
    by_cases hp : product = turn.product
    · subst hp
      simp [hchange, hmem]
    · simp [hchange, hp]

theorem Kept.answer (h : Kept start asked x) {place : Nat} {a : Awaited Point}
    (ha : x.underway.calls.awaited[place]? = some a) :
    Kept start asked (x.handle (.answer place)) := by
  obtain ⟨hreliable, hdistinct, htallied⟩ := h.answered ha
  obtain ⟨p, hp⟩ := (h.lined.asks a (List.mem_of_getElem? ha)).value x.memory
  rw [handle_answer ha, Memory.serve_eq_act h.reliable]
  rw [hp] at htallied ⊢
  have hresumes : Resumes true x.store a.point (.value p)
      (resume true x.store a.point (.value p)) := resume_resumes _ _
  refine ⟨h.lined.resume ha true _, fun turn hturn => ?_, hreliable, hdistinct, htallied, ?_⟩
  · exact (h.current turn (x.underway.mem_turns_resume ha true _ _ hturn)).trans hresumes.era.symm
  · have hbefore := (Underway.turns_takeCall ha).map (·.product)
    have hafter := ((x.underway.takeCall place).turns_record
      (resume true x.store a.point (.value p))).map (·.product)
    refine h.accounted.trans (((hbefore.append_left _).trans ?_).trans
      (hafter.symm.append_left _))
    rw [List.map_append, List.map_append, List.map_append, ← hresumes.comes.accounted,
      List.append_assoc, List.append_assoc]

theorem Kept.handle (h : Kept start asked x) (e : Event) :
    Kept start (asked ++ e.product?.toList) (x.handle e) := by
  cases e with
  | begin request => exact h.begin request
  | answer place =>
    show Kept start (asked ++ []) _
    rw [List.append_nil]
    cases ha : x.underway.calls.awaited[place]? with
    | some a => exact h.answer ha
    | none =>
      simp only [Exchange.handle, ha]
      exact h
  | turn place =>
    show Kept start (asked ++ []) _
    rw [List.append_nil]
    cases hw : x.underway.woken[place]? with
    | some w => exact h.turn hw
    | none =>
      simp only [Exchange.handle, hw]
      exact h

theorem Kept.run (h : Kept start asked x) (events : List Event) :
    Kept start (asked ++ events.filterMap Event.product?) (x.run events) := by
  induction events generalizing asked x with
  | nil =>
    rw [List.filterMap_nil, List.append_nil]
    exact h
  | cons e events ih =>
    have hrest := ih (h.handle e)
    rw [List.append_assoc] at hrest
    cases he : e.product? with
    | none =>
      rw [he] at hrest
      rw [List.filterMap_cons_none he]
      exact hrest
    | some product =>
      rw [he] at hrest
      rw [List.filterMap_cons_some he]
      exact hrest

/-- A store that has just been loaded is in order. -/
theorem kept_opened {store : Favourites} {memory : Memory} (hidle : store.queues = [])
    (hdistinct : memory.favourites.Nodup) (hreliable : memory.failures = []) :
    Kept memory.favourites [] (opened store memory) := by
  -- the ids are listed with the first answer, and no toggle has begun until then
  let asking := handle ⟨store, .idle, memory, []⟩ (.begin .resync)
  suffices h : Kept memory.favourites [] (asking.handle (.answer 0)) from h.handle (.answer 0)
  have ha : asking.underway.calls.awaited[0]? = some ⟨.getFavourites, .loadingIds .details⟩ := rfl
  have hserved : asking.memory.serve true .getFavourites =
      (memory, .value memory.favouritesPayload) := Memory.serve_eq_act hreliable _
  rw [handle_answer ha, hserved]
  have hlined : Lined asking.store.queues asking.store.tickets none asking.underway := by
    refine Lined.begin (f := store) ?_ true .resync
    rw [hidle]
    exact lined_idle _
  let s := resume true asking.store (.loadingIds .details) (.value memory.favouritesPayload)
  have hcont : Continues true (received asking.store (.loadingIds .details)
      (.value memory.favouritesPayload)) none s := .after _ (afterIds_continues .details)
  have hids : s.state.ids = memory.favourites :=
    hcont.ids.trans (idsOf_favouritesPayload_of_nodup hdistinct)
  have hturns : ((asking.underway.takeCall 0).record s).turns = [] :=
    List.eq_nil_iff_forall_not_mem.mpr fun turn hturn => by
      have hbefore := asking.underway.mem_turns_resume ha true _ _ hturn
      cases hbefore
  have hended : (Point.loadingIds .details).ended? s.progress = none := by
    cases s.progress with
    | finished result => cases result <;> rfl
    | calling | queued | stopped => rfl
  refine ⟨hlined.resume ha true _, fun turn hturn => ?_, hreliable, hdistinct, ?_, ?_⟩
  · rw [hturns] at hturn
    cases hturn
  · show Tallied _ s.state.ids memory.favourites ([] ++ (Point.ended? _ s.progress).toList)
      ((asking.underway.takeCall 0).record s).points
    rw [hids, hended, Underway.points_eq_nil hturns]
    exact tallied_nil memory.favourites
  · show List.Perm [] (([] ++ (Point.ended? _ s.progress).toList).map _ ++
      ((asking.underway.takeCall 0).record s).turns.map _)
    rw [hended, hturns]
    exact List.Perm.refl _

/-- **Toggles alternate.** Let toggles of any products begin at any moments at a store that has just
been loaded, and let the calls be answered in any order by a backend that fails at nothing and keeps
no product twice among its favourites. Once all toggles have ended, the outcomes of each product
alternate, beginning with `removed` for a favourite and with `added` for any other; the product is
among the backend's favourites as if it had been flipped once for each toggle; and the store lists the
backend's favourites in their order. -/
theorem alternating_of_ended {store : Favourites} {memory : Memory} (hidle : store.queues = [])
    (hdistinct : memory.favourites.Nodup) (hreliable : memory.failures = [])
    {events : List Event} (hended : ((opened store memory).run events).underway.turns = []) :
    let x := (opened store memory).run events
    (∀ product,
      let n := (events.filterMap Event.product?).count product
      outcomesOf product x.outcomes = alternating (decide (product ∈ memory.favourites)) n ∧
        decide (product ∈ x.memory.favourites) =
          not^[n] (decide (product ∈ memory.favourites))) ∧
      x.store.ids = x.memory.favourites := by
  intro x
  have h : Kept memory.favourites (events.filterMap Event.product?) x :=
    (kept_opened hidle hdistinct hreliable).run events
  have hpoints := Underway.points_eq_nil hended
  have htallied := h.tallied
  have haccounted := h.accounted
  rw [hpoints] at htallied
  rw [hended, List.map_nil, List.append_nil] at haccounted
  refine ⟨fun product => ?_, htallied.listed.resolve_right fun hne => hne rfl⟩
  have hidle : product ∉ List.filterMap Point.product? [] := List.not_mem_nil
  obtain ⟨houtcomes, hmember, _⟩ := htallied.settled hidle
  rw [haccounted.count_eq]
  exact ⟨houtcomes, hmember⟩

/-- Two toggles of one product and one of another overlap, and are answered out of order. -/
theorem alternating_of_ended_overlapping :
    let memory : Memory := ⟨[(7, [("id", .int 7), ("name", .text "Seven")])], [9, 7], [], .list [],
      .wrapped, .list, .acknowledgement, 1, []⟩
    let toggle (product : Int) : Event := .begin (.toggle (.int product))
    let events := [toggle 7, toggle 5, toggle 7, .answer 1, .answer 0, .answer 1, .answer 0,
      .answer 1, .answer 0, .turn 0, .answer 0, .answer 0, .answer 0]
    (Favourites.empty.queues = [] ∧ memory.favourites.Nodup ∧ memory.failures = [] ∧
        ((opened .empty memory).run events).underway.turns = []) ∧
      outcomesOf 7 ((opened .empty memory).run events).outcomes = [.removed, .added] ∧
        outcomesOf 5 ((opened .empty memory).run events).outcomes = [.added] ∧
        decide (7 ∈ ((opened .empty memory).run events).memory.favourites) = true ∧
        ((opened .empty memory).run events).store.ids =
          ((opened .empty memory).run events).memory.favourites := by
  intro memory toggle events
  have hdistinct : memory.favourites.Nodup := by decide
  have hended : ((opened .empty memory).run events).underway.turns = [] := by decide +kernel
  obtain ⟨htoggles, hids⟩ := alternating_of_ended rfl hdistinct rfl hended
  obtain ⟨houtcomes, hmember⟩ := htoggles 7
  have hseven : (events.filterMap Event.product?).count 7 = 2 := by decide +kernel
  have hfive : (events.filterMap Event.product?).count 5 = 1 := by decide +kernel
  refine ⟨⟨rfl, hdistinct, rfl, hended⟩, ?_, ?_, ?_, hids⟩
  · rw [houtcomes, hseven]
    decide
  · rw [(htoggles 5).1, hfive]
    decide
  · rw [hmember, hseven]
    decide

end Exchange

end Shopfront.Favourites
