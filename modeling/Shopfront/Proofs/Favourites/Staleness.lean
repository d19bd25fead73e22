import Shopfront.Proofs.Favourites.Lag

/-! Toggles of different products overlap, and the answers of the backend land in any order. Each
toggle makes its change and lists the favourites again, but an older listing may land after a newer
one, and so may the products of older ids. Main statement: once nothing is outstanding, a toggle is
shown exactly if its change was made before the listing that has landed last was worked out, and the
products shown are those of the ids for which they were last asked (`shown_iff`). So a product that
has just become a favourite may be shown as none (`hidden_after_toggle`). -/

namespace Shopfront.Favourites

namespace Queues

variable {turn : Turn} {queues : Queues}

theorem mem_leave {q : Queue} (h : q ∈ queues.leave turn) :
    ∃ q' ∈ queues, q.turn = q'.turn ∧ q.waiting = q'.waiting := by
  obtain ⟨hmem, _⟩ := List.mem_filter.mp h
  obtain ⟨q', hq', rfl⟩ := List.mem_map.mp hmem
  refine ⟨q', hq', ?_⟩
  split <;> exact ⟨rfl, rfl⟩

theorem first?_eq_none (h : ∀ q ∈ queues, q.waiting = []) : queues.first? turn = none := by
  rw [first?, Option.bind_eq_none_iff]
  intro q hq
  rw [h q (List.mem_of_find?_eq_some hq)]
  rfl

end Queues

theorem Underway.woken_record {u : Underway} {s : Step} (h : s.woken = none) :
    (u.record s).woken = u.woken := by
  rw [record, h]
  show (u.arrive s.progress).woken = u.woken
  cases s.progress <;> rfl

namespace Lag

/-- Toggles of these products have begun, no two of one product. What waits is as it should be, and
what is shown is as old as it is said to be. -/
structure Kept (begun : List Int) (x : Lag) : Prop where
  reliable : x.memory.failures = []
  distinct : x.memory.favourites.Nodup
  single : begun.Nodup
  accounted : begun.Perm x.products
  free : ∀ q ∈ x.store.queues, q.turn.product ∈ begun ∧ q.waiting = []
  alone : x.underway.woken = []
  known : ∀ product ∈ x.changes, product ∈ begun
  due : ∀ a ∈ x.underway.calls.awaited, Due x.memory.favourites x.changes x.listed a.call a.point
  held : ∀ r ∈ x.ready, Held x.memory x.changes x.listed r
  ended : ∀ entry ∈ x.outcomes, Stands x.memory.favourites entry.1 entry.2
  current : ∀ stamp ∈ x.listed, Lists x.memory.favourites x.changes x.store.ids stamp
  shown : ∀ ids ∈ x.asked, x.store.products = joined x.memory ids
  seen : x.outcomes ≠ [] → x.listed ≠ none ∧ x.asked ≠ none

variable {x : Lag} {begun : List Int} {place : Nat}

theorem kept_start {store : Favourites} {memory : Memory} (hidle : store.queues = [])
    (hdistinct : memory.favourites.Nodup) (hreliable : memory.failures = []) :
    Kept [] (start store memory) where
  reliable := hreliable
  distinct := hdistinct
  single := List.nodup_nil
  accounted := List.Perm.refl _
  free q hq := by
    rw [start, hidle] at hq
    cases hq
  alone := rfl
  known _ h := nomatch h
  due _ h := nomatch h
  held _ h := nomatch h
  ended _ h := nomatch h
  current _ h := nomatch h
  shown _ h := nomatch h
  seen h := absurd rfl h

/-! ## A toggle begins -/

/-- What is sent by a toggle in its turn. -/
theorem sent {f : Favourites} {turn : Turn} {s : Step} (hs : Sends f turn s)
    (favourites : List Int) {changes : List Int} (listed : Option Nat) (hnew : turn.product ∉ changes) :
    (∃ call point, s.progress = .calling call point ∧ point.product? = some turn.product ∧
        Due favourites changes listed call point) ∧
      s.woken = none ∧ s.state.products = f.products ∧ s.state.queues = f.queues := by
  induction hs with
  | remove hmem => exact ⟨⟨_, _, rfl, rfl, .remove hmem hnew⟩, rfl, rfl, rfl⟩
  | add hmem => exact ⟨⟨_, _, rfl, rfl, .add hmem hnew⟩, rfl, rfl, rfl⟩
  | after _ _ ih => exact ih

theorem Kept.begin (h : Kept begun x) {product : Payload} {id : Int} (hid : product.id? = some id)
    (hnew : id ∉ begun) : Kept (begun ++ [id]) (x.handle (.toggle product)) := by
  let turn : Turn := ⟨id, x.store.era⟩
  have hfree : x.store.queues.isFree turn = true := by
    rw [Queues.isFree_iff, Queues.ofTurn, List.filter_eq_nil_iff]
    intro q hq he
    have hturn : q.turn = turn := by simpa using he
    refine hnew ?_
    rw [show id = q.turn.product by rw [hturn]]
    exact (h.free q hq).1
  let f : Favourites := { x.store with queues := x.store.queues.take turn }
  have hbegin : Favourites.begin true x.store (.toggle product) = sendToggle f turn := by
    simp only [Favourites.begin, toggle, if_true, hid, takeTurn]
    rw [if_pos hfree]
  have hsends := sendToggle_sends (f := f) turn
  obtain ⟨⟨call, point, hprogress, hproduct, hdue⟩, hwoken, hproducts, hqueues⟩ :=
    sent hsends x.memory.favourites x.listed fun hc => hnew (h.known id hc)
  have hawaited : (x.underway.record (sendToggle f turn)).calls.awaited =
      x.underway.calls.awaited ++ [⟨call, point⟩] := by
    rw [Underway.awaited_record, hprogress]
    rfl
  simp only [handle, hbegin]
  refine ⟨h.reliable, h.distinct, ?_, ?_, fun q hq => ?_, ?_, fun p hp => ?_, fun a ha => ?_,
    h.held, h.ended, fun stamp hs => ?_, fun ids hids => ?_, h.seen⟩
  · exact List.nodup_append.mpr ⟨h.single, List.nodup_singleton id, fun a ha b hb he =>
      hnew (List.mem_singleton.mp hb ▸ he ▸ ha)⟩
  · have hcount := List.perm_iff_count.mp h.accounted
    have hsent : (sendToggle f turn).progress.awaited?.bind (·.point.product?) = some id := by
      rw [hprogress]
      exact hproduct
    refine List.perm_iff_count.mpr fun other => ?_
    have hother := hcount other
    simp only [products, Underway.filterMap_awaited_record, hsent, Option.toList_some,
      List.count_append] at hother ⊢
    omega
  · rw [hqueues] at hq
    rcases List.mem_append.mp hq with hq | hq
    · obtain ⟨hmem, hwaiting⟩ := h.free q hq
      exact ⟨List.mem_append_left _ hmem, hwaiting⟩
    · cases List.mem_singleton.mp hq
      exact ⟨List.mem_append_right _ (List.mem_singleton_self id), rfl⟩
  · rw [Underway.woken_record hwoken]
    exact h.alone
  · exact List.mem_append_left _ (h.known p hp)
  · rw [hawaited] at ha
    rcases List.mem_append.mp ha with ha | ha
    · exact h.due a ha
    · cases List.mem_singleton.mp ha
      exact hdue
  · rw [hsends.ids]
    exact h.current stamp hs
  · rw [hproducts]
    exact h.shown ids hids

/-! ## A call is worked out -/

theorem handle_serve (hreliable : x.memory.failures = []) {a : Awaited Point}
    (ha : x.underway.calls.awaited[place]? = some a) {m : Memory} {reply : Reply}
    (hact : x.memory.act a.call = (m, reply)) {product : Int}
    (hproduct : a.point.product? = some product) :
    let changes := withChange x.memory m x.changes product
    x.handle (.serve place) = { x with
      underway := x.underway.takeCall place
      memory := m
      ready := x.ready ++ [⟨a.point, reply, changes.length⟩]
      changes } := by
  simp only [handle, ha, Memory.serve_eq_act hreliable, hact, hproduct]

theorem products_serve {a : Awaited Point} (ha : x.underway.calls.awaited[place]? = some a)
    (m : Memory) (reply : Reply) (changes : List Int) (stamp : Nat) :
    ({ x with
      underway := x.underway.takeCall place
      memory := m
      ready := x.ready ++ [⟨a.point, reply, stamp⟩]
      changes } : Lag).products.Perm x.products := by
  have htaken := Shopfront.Underway.filterMap_awaited_take ha (·.point.product?)
  refine List.perm_iff_count.mpr fun other => ?_
  have hcount := htaken.count_eq other
  simp only [products, Underway.takeCall, List.filterMap_append, filterMap_cons_eq, List.filterMap_nil,
    List.append_nil, List.count_append] at hcount ⊢
  omega

/-- A load is worked out; it changes nothing. -/
theorem Kept.serve_load (h : Kept begun x) {a : Awaited Point}
    (ha : x.underway.calls.awaited[place]? = some a) {reply : Reply}
    (hact : x.memory.act a.call = (x.memory, reply))
    (hheld : Held x.memory x.changes x.listed ⟨a.point, reply, x.changes.length⟩) :
    Kept begun (x.handle (.serve place)) := by
  obtain ⟨product, hproduct⟩ := (h.due a (List.mem_of_getElem? ha)).exists_product
  have hsame : withChange x.memory x.memory x.changes product = x.changes := if_pos rfl
  rw [handle_serve h.reliable ha hact hproduct, hsame]
  refine ⟨h.reliable, h.distinct, h.single, ?_, h.free, h.alone, h.known, fun b hb => ?_,
    fun r hr => ?_, h.ended, h.current, h.shown, h.seen⟩
  · exact h.accounted.trans (products_serve ha _ _ _ _).symm
  · exact h.due b ((Shopfront.Underway.mem_awaited_take ha b).mpr (.inr hb))
  · rcases List.mem_append.mp hr with hr | hr
    · exact h.held r hr
    · cases List.mem_singleton.mp hr
      exact hheld

/-- No other toggle, under way or ended, is of the product of a call that waits. -/
theorem Kept.apart (h : Kept begun x) {a : Awaited Point}
    (ha : x.underway.calls.awaited[place]? = some a) {product : Int}
    (hproduct : a.point.product? = some product) :
    product ∉ x.outcomes.map (·.1) ∧ product ∉ x.ready.filterMap (·.point.product?) ∧
      product ∉ (x.underway.takeCall place).calls.awaited.filterMap (·.point.product?) := by
  -- The product is counted once in all, and the call that waits is that once.
  have hsingle : x.products.Nodup := h.accounted.nodup_iff.mp h.single
  have hle := List.nodup_iff_count_le_one.mp hsingle product
  have hcount := (Shopfront.Underway.filterMap_awaited_take ha (·.point.product?)).count_eq product
  rw [hproduct, Option.toList_some, List.singleton_append, List.count_cons_self] at hcount
  simp only [products, List.count_append] at hle
  refine ⟨?_, ?_, ?_⟩
  · rw [← List.count_eq_zero]
    omega
  · rw [← List.count_eq_zero]
    omega
  · rw [← List.count_eq_zero]
    show List.count product ((x.underway.calls.take place).awaited.filterMap _) = 0
    omega

/-- A change is worked out. -/
theorem Kept.serve_change (h : Kept begun x) {a : Awaited Point}
    (ha : x.underway.calls.awaited[place]? = some a) {m : Memory} {reply : Reply} {product : Int}
    {outcome : Outcome} (hact : x.memory.act a.call = (m, reply))
    (hproduct : a.point.product? = some product) (hnew : product ∉ x.changes)
    (ht : Toggles x.memory m product outcome) (hreliable : m.failures = [])
    (hbatch : ∀ ids, batch m ids = batch x.memory ids)
    (hheld : ∀ changes stamp, Held m changes x.listed ⟨a.point, reply, stamp⟩) :
    Kept begun (x.handle (.serve place)) := by
  have hperm := h.accounted
  obtain ⟨houtcomes, hready, hawaited⟩ := h.apart ha hproduct
  rw [handle_serve h.reliable ha hact hproduct]
  refine ⟨hreliable, ht.distinct, h.single, ?_, h.free, h.alone, fun p hp => ?_, fun b hb => ?_,
    fun r hr => ?_, fun entry he => ?_, fun stamp hs => ?_, fun ids hids => ?_, h.seen⟩
  · exact hperm.trans (products_serve ha _ _ _ _).symm
  · rcases mem_withChange hp with hp | rfl
    · exact h.known p hp
    · refine hperm.mem_iff.mpr (List.mem_append_right _ (List.mem_append_right _ ?_))
      exact List.mem_filterMap.mpr ⟨a, List.mem_of_getElem? ha, hproduct⟩
  · have hbefore := (Shopfront.Underway.mem_awaited_take ha b).mpr (.inr hb)
    exact (h.due b hbefore).change ht fun he =>
      hawaited (List.mem_filterMap.mpr ⟨b, hb, he⟩)
  · rcases List.mem_append.mp hr with hr | hr
    · exact (h.held r hr).change ht (fun he => hready (List.mem_filterMap.mpr ⟨r, hr, he⟩)) hnew
        hbatch
    · cases List.mem_singleton.mp hr
      exact hheld _ _
  · exact (h.ended entry he).keep ht fun heq =>
      houtcomes (List.mem_map.mpr ⟨entry, he, heq⟩)
  · exact (h.current stamp hs).toggle ht hnew
  · rw [h.shown ids hids, joined, joined, hbatch]

theorem Kept.serve (h : Kept begun x) (place : Nat) : Kept begun (x.handle (.serve place)) := by
  cases ha : x.underway.calls.awaited[place]? with
  | none =>
    simp only [handle, ha]
    exact h
  | some a =>
    have hdue := h.due a (List.mem_of_getElem? ha)
    obtain ⟨call, point⟩ := a
    cases hdue with
    | @list turn before outcome hstands hbefore =>
      have hlisting := idsOf_favouritesPayload_of_nodup h.distinct
      refine h.serve_load ha rfl (.listing hstands hbefore ?_ ?_)
      · rw [hlisting]
        exact hstands
      · rw [hlisting]
        exact lists_favourites _ _
    | details wanted hlisted hstands =>
      exact h.serve_load ha rfl (.details wanted _ hlisted hstands)
    | @add turn before hmem hnew =>
      have ht := act_addFavourite_toggles h.distinct turn.product
      refine h.serve_change ha rfl rfl hnew ht h.reliable (fun _ => rfl) fun changes stamp => ?_
      refine .changed _ stamp ht.stands ?_
      simp [Stands, hmem, outcomeOf]
    | @remove turn before hmem hnew =>
      have ht := act_removeFavourite_toggles h.distinct turn.product
      refine h.serve_change ha rfl rfl hnew ht h.reliable (fun _ => rfl) fun changes stamp => ?_
      refine .changed _ stamp ht.stands ?_
      simp [Stands, hmem, outcomeOf]

/-! ## An answer lands -/

/-- What the step of a landing makes of the answer. -/
structure Lands (x : Lag) (r : Ready) (s : Step) : Prop where
  moves : r.point.product?.toList = (r.point.ended? s.progress).toList.map (·.1) ++
    (s.progress.awaited?.bind (·.point.product?)).toList
  alone : s.woken = none
  queues : ∀ q ∈ s.state.queues, ∃ q' ∈ x.store.queues, q.turn = q'.turn ∧ q.waiting = q'.waiting
  due : ∀ a ∈ s.progress.awaited?,
    Due x.memory.favourites x.changes (r.listed?.or x.listed) a.call a.point
  ended : ∀ entry ∈ r.point.ended? s.progress, Stands x.memory.favourites entry.1 entry.2 ∧
    r.listed?.or x.listed ≠ none ∧ (r.point.asked? s.state).or x.asked ≠ none
  current : ∀ stamp ∈ r.listed?.or x.listed, Lists x.memory.favourites x.changes s.state.ids stamp
  shown : ∀ ids ∈ (r.point.asked? s.state).or x.asked, s.state.products = joined x.memory ids

variable {r : Ready}

theorem Kept.land (h : Kept begun x) (hr : x.ready[place]? = some r)
    (hl : Lands x r (resume true x.store r.point r.reply)) :
    Kept begun (x.handle (.land place)) := by
  generalize hs : resume true x.store r.point r.reply = s at hl
  obtain ⟨hlt, hget⟩ := List.getElem?_eq_some_iff.mp hr
  simp only [handle, hr, hs]
  refine ⟨h.reliable, h.distinct, h.single, ?_, fun q hq => ?_, ?_, h.known, fun a ha => ?_,
    fun r' hr' => ?_, fun entry he => ?_, hl.current, hl.shown, fun hne => ?_⟩
  · have hcount := List.perm_iff_count.mp h.accounted
    have hready := ((List.getElem_cons_eraseIdx_perm hlt).filterMap (·.point.product?)).symm
    rw [hget] at hready
    refine List.perm_iff_count.mpr fun other => ?_
    have hother := hcount other
    have hmoves := congrArg (List.count other) hl.moves
    have htaken := hready.count_eq other
    rw [filterMap_cons_eq] at htaken
    simp only [products, Underway.filterMap_awaited_record, List.map_append, List.count_append]
      at hother hmoves htaken ⊢
    omega
  · obtain ⟨q', hq', hturn, hwaiting⟩ := hl.queues q hq
    rw [hturn, hwaiting]
    exact h.free q' hq'
  · rw [Underway.woken_record hl.alone]
    exact h.alone
  · rw [Underway.awaited_record] at ha
    rcases List.mem_append.mp ha with ha | ha
    · exact (h.due a ha).land r.listed?
    · exact hl.due a (Option.mem_toList.mp ha)
  · exact (h.held r' (List.mem_of_mem_eraseIdx hr')).land r.listed?
  · rcases List.mem_append.mp he with he | he
    · exact h.ended entry he
    · exact (hl.ended entry (Option.mem_toList.mp he)).1
  · cases he : r.point.ended? s.progress with
    | none =>
      rw [he, Option.toList_none, List.append_nil] at hne
      obtain ⟨hlisted, hasked⟩ := h.seen hne
      exact ⟨fun hn => hlisted (Option.or_eq_none_iff.mp hn).2,
        fun hn => hasked (Option.or_eq_none_iff.mp hn).2⟩
    | some entry => exact (hl.ended entry he).2

theorem Lands.after {s : Step} (h : Lands x r s) (entries : Journal) : Lands x r (s.after entries) :=
  ⟨h.moves, h.alone, h.queues, h.due, h.ended, h.current, h.shown⟩

/-- The last step of a toggle, whose listing has landed before or lands with it. -/
theorem Kept.lands_leave (h : Kept begun x) {f : Favourites} {turn : Turn} {outcome : Outcome}
    {ids : List Int} (hqueues : f.queues = x.store.queues)
    (hproduct : r.point.product? = some turn.product)
    (hasked : r.point.asked? (leave f turn (.finished (.outcome outcome))).state = some ids)
    (hstands : Stands x.memory.favourites turn.product outcome)
    (hlisted : r.listed?.or x.listed ≠ none)
    (hcurrent : ∀ stamp ∈ r.listed?.or x.listed, Lists x.memory.favourites x.changes f.ids stamp)
    (hshown : f.products = joined x.memory ids) :
    Lands x r (leave f turn (.finished (.outcome outcome))) where
  moves := by
    simp only [Point.ended?, leave, hproduct]
    rfl
  alone := Queues.first?_eq_none fun q hq => (h.free q (hqueues ▸ hq)).2
  queues q hq := hqueues ▸ Queues.mem_leave hq
  due a ha := nomatch ha
  ended entry he := by
    simp only [Point.ended?, leave, hproduct] at he
    cases he
    refine ⟨hstands, hlisted, fun hn => ?_⟩
    rw [hasked] at hn
    cases hn
  current := hcurrent
  shown ids' hids' := by
    rw [hasked] at hids'
    cases hids'
    exact hshown

/-- A step of a toggle that goes on to its next call. -/
theorem Kept.lands_call (h : Kept begun x) {f : Favourites} {call : Call} {point : Point}
    (hqueues : f.queues = x.store.queues) (hproducts : f.products = x.store.products)
    (hproduct : r.point.product? = point.product?) (hasked : r.point.asked? f = none)
    (hdue : Due x.memory.favourites x.changes (r.listed?.or x.listed) call point)
    (hcurrent : ∀ stamp ∈ r.listed?.or x.listed, Lists x.memory.favourites x.changes f.ids stamp) :
    Lands x r (.call f call point) where
  moves := by
    rw [hproduct]
    rfl
  alone := rfl
  queues q hq := ⟨q, hqueues ▸ hq, rfl, rfl⟩
  due a ha := by
    cases ha
    exact hdue
  ended entry he := nomatch he
  current := hcurrent
  shown ids hids := by
    rw [show (Step.call f call point).state = f from rfl, hasked] at hids
    exact hproducts.trans (h.shown ids hids)

theorem Kept.lands (h : Kept begun x) (hheld : Held x.memory x.changes x.listed r) :
    Lands x r (resume true x.store r.point r.reply) := by
  cases hheld with
  | changed p stamp hstands hbefore =>
    exact h.lands_call rfl rfl rfl rfl (.list hstands hbefore) h.current
  | @details turn outcome wanted stamp hlisted hstands =>
    refine Lands.after ?_ _
    exact h.lands_leave rfl rfl rfl hstands hlisted h.current rfl
  | @listing turn before outcome p stamp hstands hbefore hshown hlists =>
    let fresh : Favourites := releaseIds { applyIds p x.store with error := none }
    have hmoved : fresh.ids ≠ before := fun he => hbefore (he ▸ hshown)
    have hlatest : ∀ latest ∈ some stamp,
        Lists x.memory.favourites x.changes (idsOf p) latest := by
      intro latest he
      cases he
      exact hlists
    refine Lands.after ?_ _
    show Lands x _ (afterIds fresh (.toggled turn before outcome))
    rw [afterIds, if_neg hmoved, loadDetails]
    by_cases hnone : fresh.ids = []
    · rw [if_pos (List.isEmpty_iff.mpr hnone)]
      refine h.lands_leave rfl rfl ?_ hstands (Option.some_ne_none stamp) hlatest
        (joined_nil x.memory).symm
      exact if_pos ⟨hnone, fun he => hmoved (hnone.trans he.symm)⟩
    · rw [if_neg (mt List.isEmpty_iff.mp hnone)]
      refine Lands.after ?_ _
      refine h.lands_call rfl rfl rfl ?_ ?_ hlatest
      · exact if_neg fun he => hnone he.1
      · exact .details _ (Option.some_ne_none stamp) hstands

/-! ## Runs -/

/-- What cannot be toggled ends at once, and nothing else has changed. -/
theorem Kept.refuse (h : Kept begun x) {product : Payload} (hid : product.id? = none) :
    Kept begun (x.handle (.toggle product)) := by
  have hbegin : Favourites.begin true x.store (.toggle product) =
      (Step.finish x.store (.outcome .invalidId)).after
        [.warning ("Toggle favourite called with a non-numeric id: " ++ product.quoted)] := by
    simp only [Favourites.begin, toggle, if_true, hid]
  simp only [handle, hbegin]
  exact ⟨h.reliable, h.distinct, h.single, h.accounted, h.free, h.alone, h.known, h.due, h.held,
    h.ended, h.current, h.shown, h.seen⟩

theorem Kept.handle (h : Kept begun x) {event : Event} (hnew : ∀ id ∈ event.product?, id ∉ begun) :
    Kept (begun ++ event.product?.toList) (x.handle event) := by
  cases event with
  | toggle product =>
    cases hid : product.id? with
    | none =>
      rw [Event.product?, hid, Option.toList_none, List.append_nil]
      exact h.refuse hid
    | some id =>
      rw [Event.product?, hid]
      exact h.begin hid (hnew id hid)
  | serve place =>
    show Kept (begun ++ []) _
    rw [List.append_nil]
    exact h.serve place
  | land place =>
    show Kept (begun ++ []) _
    rw [List.append_nil]
    cases hr : x.ready[place]? with
    | none =>
      simp only [Lag.handle, hr]
      exact h
    | some r => exact h.land hr (h.lands (h.held r (List.mem_of_getElem? hr)))
  | turn place =>
    show Kept (begun ++ []) _
    rw [List.append_nil]
    have hnone : x.underway.woken[place]? = none := by
      rw [h.alone]
      rfl
    simp only [Lag.handle, hnone]
    exact h

theorem Kept.run (h : Kept begun x) (events : List Event)
    (hsingle : (begun ++ events.filterMap Event.product?).Nodup) :
    Kept (begun ++ events.filterMap Event.product?) (x.run events) := by
  induction events generalizing x begun with
  | nil =>
    rw [List.filterMap_nil, List.append_nil]
    exact h
  | cons event events ih =>
    have hsplit : begun ++ (event :: events).filterMap Event.product? =
        begun ++ event.product?.toList ++ events.filterMap Event.product? := by
      rw [filterMap_cons_eq, List.append_assoc]
    rw [hsplit] at hsingle ⊢
    refine ih (h.handle fun id hid => ?_) hsingle
    have hfirst := (List.nodup_append.mp (List.nodup_append.mp hsingle).1).2.2
    exact fun hmem => hfirst id hmem id (Option.mem_toList.mpr hid) rfl

variable {store : Favourites} {memory : Memory} {events : List Event}

/-- Everyone who has toggled is told in the end what the backend holds. The store shows it of a
toggle exactly if its change was made before the listing that has landed last, so that all toggles
are shown exactly if no change was made after it. -/
theorem shown_iff (hidle : store.queues = []) (hdistinct : memory.favourites.Nodup)
    (hreliable : memory.failures = []) (hsingle : (events.filterMap Event.product?).Nodup)
    (hlanded : ((start store memory).run events).ready = [])
    (hended : ((start store memory).run events).underway.calls.awaited = []) :
    let x := (start store memory).run events
    (events.filterMap Event.product?).Perm (x.outcomes.map (·.1)) ∧
    (∀ entry ∈ x.outcomes, Stands x.memory.favourites entry.1 entry.2) ∧
    (x.outcomes ≠ [] → ∃ stamp ids, x.listed = some stamp ∧ x.asked = some ids ∧
      (∀ entry ∈ x.outcomes,
        Stands x.store.ids entry.1 entry.2 ↔ entry.1 ∉ x.changes.drop stamp) ∧
      ((∀ entry ∈ x.outcomes, Stands x.store.ids entry.1 entry.2) ↔ stamp = x.changes.length) ∧
      x.store.products = joined x.memory ids) := by
  intro x
  have h : Kept (events.filterMap Event.product?) x :=
    (kept_start hidle hdistinct hreliable).run events hsingle
  have hperm : (events.filterMap Event.product?).Perm (x.outcomes.map (·.1)) := by
    have hall := h.accounted
    rwa [products, hlanded, hended, List.filterMap_nil, List.filterMap_nil, List.append_nil,
      List.append_nil] at hall
  refine ⟨hperm, h.ended, fun hne => ?_⟩
  obtain ⟨stamp, hstamp⟩ := Option.ne_none_iff_exists'.mp (h.seen hne).1
  obtain ⟨ids, hids⟩ := Option.ne_none_iff_exists'.mp (h.seen hne).2
  have hlists := h.current stamp hstamp
  have hshown : ∀ entry ∈ x.outcomes,
      (Stands x.store.ids entry.1 entry.2 ↔ entry.1 ∉ x.changes.drop stamp) :=
    fun entry he => hlists.stands_iff (h.ended entry he)
  refine ⟨stamp, ids, hstamp, hids, hshown, ⟨fun hall => ?_, fun hlast entry he => ?_⟩,
    h.shown ids hids⟩
  · have hnone : x.changes.drop stamp = [] := by
      refine List.eq_nil_iff_forall_not_mem.mpr fun product hmem => ?_
      have hbegun := h.known product (List.mem_of_mem_drop hmem)
      obtain ⟨entry, he, rfl⟩ := List.mem_map.mp (hperm.mem_iff.mp hbegun)
      exact (hshown entry he).mp (hall entry he) hmem
    have hlength := List.drop_eq_nil_iff.mp hnone
    exact Nat.le_antisymm hlists.le hlength
  · rw [hshown entry he, hlast, List.drop_length]
    exact List.not_mem_nil

/-- A favourite is given up while another product becomes one, and both listings are worked out after
both changes. -/
theorem shown_iff_current_listings :
    let store : Favourites := { Favourites.empty with ids := [7] }
    let memory : Memory := ⟨[(9, [("id", .int 9), ("name", .text "Nine")])], [7], [], .list [],
      .wrapped, .list, .acknowledgement, 1, []⟩
    let events : List Event := [.toggle (.int 7), .toggle (.int 9), .serve 1, .serve 0, .land 0,
      .land 0, .serve 1, .serve 0, .land 0, .land 0, .serve 0, .land 0, .serve 0, .land 0]
    (store.queues = [] ∧ memory.favourites.Nodup ∧ memory.failures = [] ∧
        (events.filterMap Event.product?).Nodup ∧ ((start store memory).run events).ready = [] ∧
        ((start store memory).run events).underway.calls.awaited = []) ∧
      [7, 9].Perm (((start store memory).run events).outcomes.map (·.1)) ∧
      ∀ entry ∈ ((start store memory).run events).outcomes,
        Stands ((start store memory).run events).store.ids entry.1 entry.2 := by
  intro store memory events
  have hdistinct : memory.favourites.Nodup := by decide
  have hsingle : (events.filterMap Event.product?).Nodup := by decide
  have hlanded : ((start store memory).run events).ready = [] :=
    List.length_eq_zero_iff.mp (by decide +kernel)
  have hended : ((start store memory).run events).underway.calls.awaited = [] :=
    List.length_eq_zero_iff.mp (by decide +kernel)
  have hlatest : ((start store memory).run events).listed =
      some ((start store memory).run events).changes.length := by decide +kernel
  have hsome : ((start store memory).run events).outcomes ≠ [] := by decide +kernel
  obtain ⟨hperm, _, hshown⟩ := shown_iff rfl hdistinct rfl hsingle hlanded hended
  obtain ⟨stamp, _, hstamp, _, _, hall, _⟩ := hshown hsome
  refine ⟨⟨rfl, hdistinct, rfl, hsingle, hlanded, hended⟩, hperm, hall.mpr ?_⟩
  exact Option.some.inj (hstamp.symm.trans hlatest)

/-- The listing of the first toggle is worked out before the second change and lands after the listing
of the second toggle: a product that has just become a favourite is shown as none. -/
theorem hidden_after_toggle :
    let memory : Memory := ⟨[(9, [("id", .int 9), ("name", .text "Nine")])], [], [], .list [],
      .wrapped, .list, .acknowledgement, 1, []⟩
    let events : List Event := [.toggle (.int 7), .toggle (.int 9), .serve 0, .land 0, .serve 1,
      .serve 0, .land 1, .serve 0, .land 1, .land 0, .serve 0, .serve 0, .land 0, .land 0]
    let x := (start .empty memory).run events
    (x.ready.length = 0 ∧ x.underway.calls.awaited.length = 0) ∧
      x.outcomes = [(9, .added), (7, .added)] ∧ x.memory.favourites = [7, 9] ∧
      x.store.ids = [7] ∧ x.store.contains (.int 9) = false ∧ x.store.products = [] := by
  decide +kernel

end Lag

end Shopfront.Favourites
