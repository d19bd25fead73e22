import Shopfront.Agenda.Run
import Shopfront.Proofs.Backend.Attempts
import Shopfront.Proofs.Cart.Transition
import Shopfront.Proofs.Favourites.Transition

/-! Statuses of responses, and what the stores make of them. A response with a status below 400 is
taken for the answer to its call, also if the status is none of success; any other one is a failure,
which carries the status and the payload of the response. Main statement: so it is with every call,
a change of the cart succeeds exactly if all that it asks for is taken, and a toggle fails exactly
if its change is not (`taken_below_400`); a change that was not made can count as made
(`not_modified_taken`). -/

namespace Shopfront

/-- The statuses of success. -/
def IsSuccess (status : Int) : Prop := 200 ≤ status ∧ status ≤ 299

/-- A call over the web. -/
structure WebCall where
  web : Web
  headers : List (String × String)
  call : Call

namespace WebCall

def reply (x : WebCall) : Reply := (x.web.perform x.headers x.call).reply

/-- How the last request of the call has ended. -/
def last (x : WebCall) : Outcome := (x.web.perform x.headers x.call).web.latest

def isChange (x : WebCall) : Bool := !x.call.endpoint.isRead

/-- The call has ended with a response whose status is below 400. -/
def Taken (x : WebCall) : Prop := ∃ status body, x.last = .response status body ∧ status < 400

/-- The last request has ended in an error that no caller expects. -/
def Raised (x : WebCall) : Prop := ∃ name message, x.last = .raised name message

/-- Only the given statuses count as success: a response with another one is a failure with that
status and that payload, and a payload comes from a response with one of them. -/
structure Counts (success : Int → Prop) (x : WebCall) : Prop where
  refused : ∀ status body, x.last = .response status body → ¬success status →
    ∃ message, x.reply = .failure ⟨message, some status, Web.decode body⟩
  taken : ∀ p, x.reply = .value p →
    ∃ status body, x.last = .response status body ∧ success status ∧ p = Web.decode body

/-- What a reply says about its call. -/
inductive Means (x : WebCall) : Reply → Prop
  | taken {p} : x.Taken → Means x (.value p)
  | refused {f} : ¬x.Taken → Means x (.failure f)
  | raised {fault} : x.Raised → Means x (.fault fault)

variable {x : WebCall}

theorem reply_eq (x : WebCall) : x.reply = Web.replyOf (Web.target x.call) x.last :=
  Web.reply_perform x.web x.headers x.call

theorem reply_of_low {status : Int} {body : String} (h : x.last = .response status body)
    (hlow : status < 400) : x.reply = .value (Web.decode body) := by
  rw [reply_eq, h, Web.replyOf, if_neg (Int.not_le.mpr hlow)]

theorem reply_of_high {status : Int} {body : String} (h : x.last = .response status body)
    (hhigh : 400 ≤ status) :
    ∃ message, x.reply = .failure ⟨message, some status, Web.decode body⟩ := by
  rw [reply_eq, h, Web.replyOf, if_pos hhigh]
  exact ⟨_, rfl⟩

theorem means_reply (x : WebCall) : x.Means x.reply := by
  cases hlast : x.last with
  | response status body =>
    by_cases hlow : status < 400
    · rw [reply_of_low hlast hlow]
      exact .taken ⟨status, body, hlast, hlow⟩
    · obtain ⟨message, hreply⟩ := reply_of_high hlast (Int.not_lt.mp hlow)
      rw [hreply]
      refine .refused ?_
      rintro ⟨status', body', hlast', hlow'⟩
      cases hlast.symm.trans hlast'
      exact hlow hlow'
  | disconnected message =>
    rw [reply_eq, hlast]
    refine .refused ?_
    rintro ⟨status, body, hlast', _⟩
    cases hlast.symm.trans hlast'
  | raised name message =>
    rw [reply_eq, hlast]
    exact .raised ⟨name, message, hlast⟩

theorem taken_of_value {p : Payload} (h : x.reply = .value p) : x.Taken := by
  have hmeans := h ▸ x.means_reply
  cases hmeans with
  | taken htaken => exact htaken

theorem not_taken_of_failure {f : Failure} (h : x.reply = .failure f) : ¬x.Taken := by
  have hmeans := h ▸ x.means_reply
  cases hmeans with
  | refused hnot => exact hnot

theorem raised_of_fault {fault : Fault} (h : x.reply = .fault fault) : x.Raised := by
  have hmeans := h ▸ x.means_reply
  cases hmeans with
  | raised hraised => exact hraised

theorem counts_low (x : WebCall) : x.Counts (· < 400) := by
  refine ⟨?_, ?_⟩
  · intro status body hlast hhigh
    exact reply_of_high hlast (Int.not_lt.mp hhigh)
  · intro p hreply
    obtain ⟨status, body, hlast, hlow⟩ := taken_of_value hreply
    rw [reply_of_low hlast hlow] at hreply
    cases hreply
    exact ⟨status, body, hlast, hlow, rfl⟩

/-- Only success counts, unless the last response has a status below 400 that is none of success. -/
theorem counts_success_iff (x : WebCall) :
    x.Counts IsSuccess ↔
      ∀ status body, x.last = .response status body → IsSuccess status ∨ 400 ≤ status := by
  refine ⟨?_, ?_⟩
  · intro h status body hlast
    by_cases hlow : status < 400
    · obtain ⟨status', body', hlast', hsuccess, _⟩ := h.taken _ (reply_of_low hlast hlow)
      cases hlast.symm.trans hlast'
      exact .inl hsuccess
    · exact .inr (Int.not_lt.mp hlow)
  · intro h
    refine ⟨?_, ?_⟩
    · intro status body hlast hnot
      exact reply_of_high hlast ((h status body hlast).resolve_left hnot)
    · intro p hreply
      obtain ⟨status, body, hlast, hlow, hp⟩ := x.counts_low.taken p hreply
      exact ⟨status, body, hlast, (h status body hlast).resolve_right (Int.not_le.mpr hlow), hp⟩

end WebCall

/-! ## The calls of an operation -/

/-- The changes that an operation has asked for. -/
def changesIn (log : List WebCall) : List WebCall := log.filter WebCall.isChange

/-- An operation has asked for a change, and for none that was not taken. -/
structure AllTaken (log : List WebCall) : Prop where
  asked : changesIn log ≠ []
  taken : ∀ x ∈ changesIn log, x.Taken

variable {log log' : List WebCall} {x : WebCall}

theorem changesIn_concat_read (h : x.call.endpoint.isRead = true) :
    changesIn (log ++ [x]) = changesIn log := by
  simp [changesIn, WebCall.isChange, h]

theorem changesIn_concat_change (h : x.call.endpoint.isRead = false) :
    changesIn (log ++ [x]) = changesIn log ++ [x] := by
  simp [changesIn, WebCall.isChange, h]

theorem not_allTaken_of_nil (h : changesIn log = []) : ¬AllTaken log := fun ht => ht.asked h

theorem allTaken_congr (h : changesIn log' = changesIn log) : AllTaken log' ↔ AllTaken log := by
  refine ⟨?_, ?_⟩
  · rintro ⟨hasked, htaken⟩
    exact ⟨h ▸ hasked, h ▸ htaken⟩
  · rintro ⟨hasked, htaken⟩
    exact ⟨h ▸ hasked, h ▸ htaken⟩

theorem allTaken_concat_iff (hread : x.call.endpoint.isRead = false)
    (hlog : ∀ y ∈ changesIn log, y.Taken) :
    AllTaken (log ++ [x]) ↔ x.Taken := by
  have hconcat : changesIn (log ++ [x]) = changesIn log ++ [x] := changesIn_concat_change hread
  refine ⟨?_, ?_⟩
  · intro h
    exact h.taken x (hconcat ▸ List.mem_append_right _ (List.mem_singleton_self x))
  · intro htaken
    refine ⟨hconcat ▸ List.concat_ne_nil x _, ?_⟩
    intro y hy
    rw [hconcat] at hy
    rcases List.mem_append.mp hy with hy | hy
    · exact hlog y hy
    · cases List.mem_singleton.mp hy
      exact htaken

/-! ## Changes of the cart -/

namespace Cart

/-- How a change of the cart may end after what it has been answered: it has succeeded exactly if
all changes were taken, and it is stopped only by what a request has raised. -/
inductive Concludes (log : List WebCall) : Except Fault Result → Prop
  | done {success} : (success = true ↔ AllTaken log) → Concludes log (.ok (.done success))
  | stopped (fault) : (∃ x ∈ log, x.Raised) → Concludes log (.error fault)

/-- However its calls are answered over the web, and whatever has become of the cart and of the rest
of the shop by then, the operation comes to an end, and ends as it may. -/
inductive Ends : List WebCall → Progress Point Result → Prop
  | finished {log result} : Concludes log (.ok result) → Ends log (.finished result)
  | stopped {log fault} : Concludes log (.error fault) → Ends log (.stopped fault)
  | calling {log call point} :
      (∀ ctx c (x : WebCall), x.call = call →
        Ends (log ++ [x]) (resume ctx c point x.reply).progress) →
      Ends log (.calling call point)

variable {ctx : Context} {c : Cart} {product : Int} {shown : Option Line}

theorem ends_done (h : AllTaken log) : Ends log (.finished (.done true)) :=
  .finished (.done (iff_of_true rfl h))

theorem ends_undone (h : ¬AllTaken log) : Ends log (.finished (.done false)) :=
  .finished (.done (iff_of_false Bool.false_ne_true h))

theorem ends_raised {fault : Fault} (h : x.Raised) : Ends (log ++ [x]) (.stopped fault) :=
  .stopped (.stopped fault ⟨x, List.mem_append_right _ (List.mem_singleton_self x), h⟩)

/-- The cart is loaded on the way. -/
theorem ends_loading {next : Next}
    (h : ∀ {ctx c log'}, changesIn log' = changesIn log → Ends log' (proceed ctx c next).progress) :
    Ends log (.calling .getCart (.loading next)) := by
  refine .calling fun ctx c x hcall => ?_
  -- a load is no change, so it does not matter whether it was taken
  have hsame : changesIn (log ++ [x]) = changesIn log :=
    changesIn_concat_read (congrArg (·.endpoint.isRead) hcall)
  cases hreply : x.reply with
  | value p => exact h hsame
  | failure f => exact h hsame
  | fault fault => exact ends_raised (WebCall.raised_of_fault hreply)

theorem ends_reload {next : Next}
    (h : ∀ {ctx c log'}, changesIn log' = changesIn log → Ends log' (proceed ctx c next).progress) :
    Ends log (reload ctx c next).progress := by
  unfold reload
  split
  · exact ends_loading h
  · exact h rfl

theorem ends_settle {p : Payload} (h : AllTaken log) :
    Ends log (settle ctx c product shown p).progress := by
  have hsettles : Settles ctx c product shown p (settle ctx c product shown p) :=
    settle_settles product shown p
  generalize settle ctx c product shown p = s at hsettles
  induction hsettles with
  | snapshot _ => exact ends_done h
  | line _ _ _ => exact ends_done h
  | unnamed _ _ _ => exact ends_reload fun hsame => ends_done ((allTaken_congr hsame).mpr h)
  | after _ _ ih => exact ih

theorem ends_revert {folding : Bool} {f : Failure} (h : ¬AllTaken log) :
    Ends log (revert ctx c product folding f).progress := by
  cases folding with
  | false => exact ends_undone h
  | true => exact ends_reload fun hsame => ends_undone (mt (allTaken_congr hsame).mp h)

/-- A change is asked for. What comes after a failure or a fault is the same for all of them. -/
theorem ends_changing {call : Call} {point : Point} (hcall : call.endpoint.isRead = false)
    (hpoint : point.change? = some (product, shown))
    (hlog : ∀ y ∈ changesIn log, y.Taken)
    (hvalue : ∀ {ctx c log' p}, AllTaken log' →
      Ends log' (resume ctx c point (.value p)).progress) :
    Ends log (.calling call point) := by
  refine .calling fun ctx c x hx => ?_
  have hall : AllTaken (log ++ [x]) ↔ x.Taken :=
    allTaken_concat_iff ((congrArg (·.endpoint.isRead) hx).trans hcall) hlog
  cases hreply : x.reply with
  | value p => exact hvalue (hall.mpr (WebCall.taken_of_value hreply))
  | failure f =>
    have hnot := mt hall.mp (WebCall.not_taken_of_failure hreply)
    cases point with
    | loading next => cases hpoint
    | sending | folding => exact ends_revert hnot
  | fault fault =>
    have hraised := WebCall.raised_of_fault hreply
    cases point with
    | loading next => cases hpoint
    | sending | folding => exact ends_raised hraised

theorem ends_foldNext {p : Payload} {rest : List Reference} (h : AllTaken log) :
    Ends log (foldNext ctx c product shown p rest).progress := by
  induction rest generalizing ctx c log p with
  | nil => exact ends_settle h
  | cons id rest ih => exact ends_changing rfl rfl h.taken fun hall => ih hall

/-- The first change that an operation asks for. -/
theorem ends_send {call : Call} (hcall : call.endpoint.isRead = false)
    (h : changesIn log = []) : Ends log (send c product shown call).progress := by
  refine ends_changing hcall rfl (h ▸ fun _ hy => nomatch hy) ?_
  intro ctx c log' p hall
  cases hfolding : !(foldedIds product _).isEmpty with
  | false => exact ends_settle hall
  | true => exact ends_foldNext hall

theorem ends_removeKnown {id : Reference} (h : changesIn log = []) :
    Ends log (removeKnown ctx c product id).progress := by
  unfold removeKnown
  split
  · exact ends_send rfl h
  · exact ends_undone (not_allTaken_of_nil h)

theorem ends_decreaseKnown {line : Line} {id : Reference} (h : changesIn log = []) :
    Ends log (decreaseKnown ctx c product line id).progress := by
  unfold decreaseKnown
  split
  · exact ends_removeKnown h
  · exact ends_send rfl h

theorem ends_proceed_decrease (h : changesIn log = []) :
    Ends log (proceed ctx c (.decrease product)).progress := by
  simp only [proceed]
  split
  · split
    · exact ends_decreaseKnown h
    · exact ends_undone (not_allTaken_of_nil h)
  · exact ends_undone (not_allTaken_of_nil h)

theorem ends_proceed_remove (h : changesIn log = []) :
    Ends log (proceed ctx c (.remove product)).progress := by
  simp only [proceed]
  split
  · exact ends_send rfl h
  · exact ends_undone (not_allTaken_of_nil h)

theorem ends_increase : Ends [] (increase ctx c product).progress := by
  unfold increase
  split
  · exact ends_send rfl rfl
  · split
    · exact ends_send rfl rfl
    · exact ends_send rfl rfl

theorem ends_remove : Ends [] (remove ctx c product).progress := by
  unfold remove
  split
  · exact ends_undone (not_allTaken_of_nil rfl)
  · split
    · exact ends_send rfl rfl
    · exact ends_reload ends_proceed_remove

theorem ends_decrease : Ends [] (decrease ctx c product).progress := by
  unfold decrease
  split
  · exact ends_undone (not_allTaken_of_nil rfl)
  · split
    · exact ends_remove
    · split
      · exact ends_decreaseKnown rfl
      · exact ends_reload ends_proceed_decrease

theorem ends_gated {run : Int → Step} (h : ∀ product, Ends [] (run product).progress)
    (action : String) (product : Payload) : Ends [] (gated ctx c action product run).progress := by
  unfold gated
  split
  · exact h _
  · exact ends_undone (not_allTaken_of_nil rfl)

end Cart

/-! ## Toggles -/

namespace Favourites

/-- What the outcome of a toggle tells about its change: whether it was taken. -/
structure Tells (log : List WebCall) (o : Outcome) : Prop where
  failed : o = .failed ↔ ∃ x ∈ changesIn log, ¬x.Taken
  changed : o = .added ∨ o = .removed ↔ AllTaken log

/-- How a toggle may end after what it has been answered. -/
inductive Concludes (log : List WebCall) : Except Fault Result → Prop
  | outcome {o} : Tells log o → Concludes log (.ok (.outcome o))
  | stopped (fault) : (∃ x ∈ log, x.Raised) → Concludes log (.error fault)

/-- However its calls are answered over the web, and whatever has become of the favourites and of
the session by then, the toggle comes to an end once it gets its turn, and ends as it may. -/
inductive Ends : List WebCall → Progress → Prop
  | finished {log result} : Concludes log (.ok result) → Ends log (.finished result)
  | stopped {log fault} : Concludes log (.error fault) → Ends log (.stopped fault)
  | queued {log turn ticket} : (∀ f, Ends log (wake f turn ticket).progress) →
      Ends log (.queued turn ticket)
  | calling {log call point} :
      (∀ authenticated f (x : WebCall), x.call = call →
        Ends (log ++ [x]) (resume authenticated f point x.reply).progress) →
      Ends log (.calling call point)

variable {authenticated : Bool} {f : Favourites} {turn : Turn} {before : List Int} {o : Outcome}

theorem Tells.congr (h : Tells log o) (hsame : changesIn log' = changesIn log) : Tells log' o := by
  refine ⟨?_, h.changed.trans (allTaken_congr hsame).symm⟩
  rw [hsame]
  exact h.failed

/-- Nothing has been asked for. -/
theorem tells_of_nil (h : changesIn log = []) (hfailed : o ≠ .failed)
    (hchanged : ¬(o = .added ∨ o = .removed)) : Tells log o := by
  refine ⟨iff_of_false hfailed ?_, iff_of_false hchanged (not_allTaken_of_nil h)⟩
  rw [h]
  exact fun ⟨_, hx, _⟩ => nomatch hx

theorem tells_changed (h : AllTaken log) (hchanged : o = .added ∨ o = .removed) : Tells log o := by
  refine ⟨iff_of_false ?_ ?_, iff_of_true hchanged h⟩
  · rintro rfl
    simp at hchanged
  · rintro ⟨x, hx, hnot⟩
    exact hnot (h.taken x hx)

theorem tells_failed (hx : x ∈ changesIn log) (hnot : ¬x.Taken) : Tells log .failed :=
  ⟨iff_of_true rfl ⟨x, hx, hnot⟩, iff_of_false (by simp) fun h => hnot (h.taken x hx)⟩

theorem ends_tells (h : Tells log o) : Ends log (.finished (.outcome o)) := .finished (.outcome h)

theorem ends_raised {fault : Fault} (h : x.Raised) : Ends (log ++ [x]) (.stopped fault) :=
  .stopped (.stopped fault ⟨x, List.mem_append_right _ (List.mem_singleton_self x), h⟩)

theorem ends_loadDetails {wanted : List Int} (h : Tells log o) :
    Ends log (loadDetails f wanted (.toggled turn o)).progress := by
  unfold loadDetails
  split
  · exact ends_tells h
  · refine .calling fun authenticated f x hcall => ?_
    have hagain : Tells (log ++ [x]) o :=
      h.congr (changesIn_concat_read (congrArg (·.endpoint.isRead) hcall))
    cases hreply : x.reply with
    | value p => exact ends_tells hagain
    | failure failure => exact ends_tells hagain
    | fault fault => exact ends_raised (WebCall.raised_of_fault hreply)

theorem ends_afterIds (h : Tells log o) :
    Ends log (afterIds f (.toggled turn before o)).progress := by
  simp only [afterIds]
  split
  · exact ends_tells h
  · exact ends_loadDetails h

theorem ends_loadIds (h : Tells log o) :
    Ends log (loadIds authenticated f (.toggled turn before o)).progress := by
  unfold loadIds
  split
  · refine .calling fun authenticated f x hcall => ?_
    have hagain : Tells (log ++ [x]) o :=
      h.congr (changesIn_concat_read (congrArg (·.endpoint.isRead) hcall))
    cases hreply : x.reply with
    | value p => exact ends_afterIds hagain
    | failure failure => exact ends_afterIds hagain
    | fault fault => exact ends_raised (WebCall.raised_of_fault hreply)
  · exact ends_afterIds h

theorem ends_toggling {call : Call} (hcall : call.endpoint.isRead = false)
    (ho : o = .added ∨ o = .removed) :
    Ends [] (.calling call (.toggling turn before o)) := by
  refine .calling fun authenticated f x hx => ?_
  have hread : x.call.endpoint.isRead = false := (congrArg (·.endpoint.isRead) hx).trans hcall
  have hchanges : changesIn [x] = [x] := by simp [changesIn, WebCall.isChange, hread]
  cases hreply : x.reply with
  | value p =>
    have hall : AllTaken [x] :=
      ⟨by simp [hchanges], by simpa [hchanges] using WebCall.taken_of_value hreply⟩
    exact ends_loadIds (tells_changed hall ho)
  | failure failure =>
    have hx : x ∈ changesIn [x] := by simp [hchanges]
    exact ends_tells (tells_failed hx (WebCall.not_taken_of_failure hreply))
  | fault fault => exact ends_raised (WebCall.raised_of_fault hreply)

theorem ends_sendToggle : Ends [] (sendToggle f turn).progress := by
  unfold sendToggle
  split
  · exact ends_toggling rfl (.inr rfl)
  · exact ends_toggling rfl (.inl rfl)

theorem ends_toggle (product : Payload) : Ends [] (toggle authenticated f product).progress := by
  unfold toggle
  split
  · split
    · simp only [takeTurn]
      split
      · exact ends_sendToggle
      · exact .queued fun _ => ends_sendToggle
    · exact ends_tells (tells_of_nil rfl (by simp) (by simp))
  · exact ends_tells (tells_of_nil rfl (by simp) (by simp))

end Favourites

/-- **What counts as success.** A call over the web is answered by its last response exactly if the
status is below 400, and fails with the status and the payload of the response if not; so only
success counts unless that status is below 400 and none of success. A change of the cart comes to an
end, whatever happens in between, and succeeds exactly if it has asked for something and all of it
was taken; a toggle comes to an end and fails exactly if its change was not taken. -/
theorem taken_below_400 (x : WebCall) (ctx : Cart.Context) (c : Cart) (authenticated : Bool)
    (f : Favourites) (product : Payload) :
    (x.Counts (· < 400) ∧ (x.Counts IsSuccess ↔
      ∀ status body, x.last = .response status body → IsSuccess status ∨ 400 ≤ status)) ∧
    (Cart.Ends [] (Cart.begin ctx c (.increase product)).progress ∧
      Cart.Ends [] (Cart.begin ctx c (.decrease product)).progress ∧
      Cart.Ends [] (Cart.begin ctx c (.remove product)).progress) ∧
    Favourites.Ends [] (Favourites.begin authenticated f (.toggle product)).progress := by
  refine ⟨⟨x.counts_low, x.counts_success_iff⟩, ⟨?_, ?_, ?_⟩, ?_⟩
  · exact Cart.ends_gated (fun _ => Cart.ends_increase) _ product
  · exact Cart.ends_gated (fun _ => Cart.ends_decrease) _ product
  · exact Cart.ends_gated (fun _ => Cart.ends_remove) _ product
  · exact Favourites.ends_toggle product

/-- The service answers a change of the cart with the news that nothing was modified. The change
succeeds, and the cart shows it. -/
theorem not_modified_taken :
    let w : Web := ⟨"http://shop.test/api/v1", Web.defaultTimeout, Web.defaultAttempts,
      fun _ => .response 304 "", [], false⟩
    let row : Payload := .object [("id", .int 1), ("quantity", .int 2), ("sneaker_id", .int 7)]
    let shop := Shop.ofSession ⟨some "t"⟩ .empty Cart.defaultTaxRate
    let filled := (Agenda.ofShop shop (.web w)).perform (.act (.applyCart (.list [row])))
    let raised := filled.perform (.cart (.increase (.int 7)))
    let x : WebCall := ⟨w, shop.session.headers, .updateCartLine (.int 1) 3⟩
    raised.calls = [x.call] ∧ x.last = .response 304 "" ∧ ¬x.Counts IsSuccess ∧
      raised.ending? filled.nextTask = some (.ok (.flag true)) ∧
      raised.shop.cart.error = none ∧
      raised.shop.cart.lines.map (fun line => (line.product, line.quantity)) = [(7, 3)] := by
  refine ⟨rfl, rfl, fun h => ?_, rfl, rfl, rfl⟩
  rcases (WebCall.counts_success_iff _).mp h 304 "" rfl with hsuccess | hhigh
  · exact absurd hsuccess.2 (by decide)
  · exact absurd hhigh (by decide)

end Shopfront
