import Mathlib.Order.Bounds.Basic
import Shopfront.Backend.Web

/-! Attempts of a call over the web. The outcomes of the requests are given, one for each request
that is ever sent. Main statement: a call that only reads is sent until an outcome will not pass, or
until its attempts are used up, of which there is at least one; any other call is sent once; and
what comes of the call is what the last of its outcomes means (`sent_until_enough`). -/

namespace Shopfront

/-- Whether the next request may end otherwise: no response came, or the server had an error. -/
def Outcome.mayPass : Outcome → Bool
  | .response status _ => decide (500 ≤ status)
  | .disconnected _ => true
  | .raised .. => false

/-- Whether calls of the endpoint only read. -/
def Endpoint.isRead : Endpoint → Bool
  | .getFavourites | .getProducts | .getProductsBatch | .getCart | .getOrders => true
  | .addFavourite | .removeFavourite | .addToCart | .updateCartLine | .removeCartLine => false

namespace Web

/-- How the requests to come end, the next one first. -/
def coming (w : Web) (i : Nat) : Outcome := w.outcomes (w.sent.length + i)

def request (w : Web) (headers : List (String × String)) (t : Target) : WebRequest :=
  ⟨t.method, w.root ++ t.path, headers, w.timeout, t.query, t.body⟩

/-- After `k` requests there is no other one: all attempts are used up, or the last request ended in
a way that will not pass. -/
def Enough (attempts : Int) (outcomes : Nat → Outcome) (k : Nat) : Prop :=
  (k : Int) = max 1 attempts ∨ ∃ i, k = i + 1 ∧ (outcomes i).mayPass = false

/-- How the last request so far has ended. -/
def latest (w : Web) : Outcome := w.outcomes (w.sent.length - 1)

/-- The same request has been sent `k` times, and the call is answered by the last outcome. -/
structure SentTimes (w : Web) (headers : List (String × String)) (t : Target) (k : Nat)
    (s : Sent) : Prop where
  web : s.web = { w with sent := w.sent ++ List.replicate k (w.request headers t) }
  reply : s.reply = replyOf t (w.coming (k - 1))

variable {attempts : Int} {outcomes : Nat → Outcome} {w : Web}
variable {headers : List (String × String)} {t : Target}

theorem mayPass_replyOf (t : Target) (outcome : Outcome) :
    mayPass (replyOf t outcome) = outcome.mayPass := by
  cases outcome with
  | response status body =>
    simp only [replyOf, Outcome.mayPass]
    split
    · rfl
    · next hlow =>
      have hnot : ¬500 ≤ status := by omega
      simp [mayPass, hnot]
  | disconnected message => rfl
  | raised name message => rfl

theorem isRead_eq (call : Call) : isRead call = call.endpoint.isRead := by cases call <;> rfl

/-! ## The number of requests -/

theorem Enough.pos {k : Nat} (h : Enough attempts outcomes k) : 1 ≤ k := by
  obtain hused | ⟨i, hk, _⟩ := h <;> omega

theorem isLeast_one (h : Enough attempts outcomes 1) :
    IsLeast {k | Enough attempts outcomes k} 1 :=
  ⟨h, fun _ hk => hk.pos⟩

/-- Where the first outcome may pass, the others decide, with an attempt less. -/
theorem enough_succ_iff {left k : Nat} (h : (outcomes 0).mayPass = true) :
    Enough (left + 2) outcomes (k + 1) ↔ Enough (left + 1) (fun i => outcomes (i + 1)) k := by
  refine or_congr (by omega) ⟨?_, ?_⟩
  · rintro ⟨i, hk, hlasting⟩
    obtain rfl : k = i := Nat.succ.inj hk
    cases k with
    | zero => cases h.symm.trans hlasting
    | succ i => exact ⟨i, rfl, hlasting⟩
  · rintro ⟨i, rfl, hlasting⟩
    exact ⟨i + 1, rfl, hlasting⟩

theorem isLeast_enough_succ {left k : Nat} (h : (outcomes 0).mayPass = true)
    (hk : IsLeast {k | Enough (left + 1) (fun i => outcomes (i + 1)) k} k) :
    IsLeast {k | Enough (left + 2) outcomes k} (k + 1) := by
  refine ⟨(enough_succ_iff h).mpr hk.1, ?_⟩
  intro j hj
  obtain ⟨i, rfl⟩ : ∃ i, j = i + 1 := Nat.exists_eq_add_of_le' (Enough.pos hj)
  exact Nat.succ_le_succ (hk.2 ((enough_succ_iff h).mp hj))

/-! ## Sending -/

theorem send_sentTimes (w : Web) (headers : List (String × String)) (t : Target) :
    SentTimes w headers t 1 (send w headers t) := ⟨rfl, rfl⟩

theorem coming_send : (send w headers t).web.coming = fun i => w.coming (i + 1) := by
  funext i
  simp only [coming, send, List.length_append, List.length_singleton]
  congr 1
  omega

/-- One request more in front of those that were sent from there on. -/
theorem SentTimes.succ {k : Nat} {s : Sent} (h : SentTimes (send w headers t).web headers t k s)
    (hk : 1 ≤ k) : SentTimes w headers t (k + 1) s := by
  obtain ⟨i, rfl⟩ : ∃ i, k = i + 1 := Nat.exists_eq_add_of_le' hk
  have hsent : (w.sent ++ [w.request headers t]) ++ List.replicate (i + 1) (w.request headers t) =
      w.sent ++ List.replicate (i + 1 + 1) (w.request headers t) := by
    rw [List.append_assoc, List.singleton_append, ← List.replicate_succ]
  refine ⟨?_, ?_⟩
  · rw [h.web, ← hsent]
    rfl
  · rw [h.reply, coming_send]
    rfl

theorem sendAgain_sentTimes (headers : List (String × String)) (t : Target) (left : Nat) (w : Web) :
    ∃ k, IsLeast {k | Enough (left + 1) w.coming k} k ∧
      SentTimes w headers t k (sendAgain headers t left w) := by
  induction left generalizing w with
  | zero => exact ⟨1, isLeast_one (.inl rfl), send_sentTimes w headers t⟩
  | succ left ih =>
    have hfirst : mayPass (send w headers t).reply = (w.coming 0).mayPass := mayPass_replyOf t _
    cases hpass : (w.coming 0).mayPass with
    | false =>
      rw [sendAgain, if_neg (by simp [hfirst, hpass])]
      exact ⟨1, isLeast_one (.inr ⟨0, rfl, hpass⟩), send_sentTimes w headers t⟩
    | true =>
      rw [sendAgain, if_pos (hfirst.trans hpass)]
      obtain ⟨k, hleast, hsent⟩ := ih (send w headers t).web
      rw [coming_send] at hleast
      have hagain := hsent.succ (Enough.pos hleast.1)
      exact ⟨k + 1, isLeast_enough_succ hpass hleast, hagain.web, hagain.reply⟩

theorem SentTimes.reply_latest {k : Nat} {s : Sent} (h : SentTimes w headers t k s) (hk : 1 ≤ k) :
    s.reply = replyOf t s.web.latest := by
  have hlast : (w.sent ++ List.replicate k (w.request headers t)).length - 1 =
      w.sent.length + (k - 1) := by
    rw [List.length_append, List.length_replicate]
    omega
  rw [h.reply, h.web, latest, coming, hlast]

/-- A call is answered by the outcome of the last request that it has sent. -/
theorem reply_perform (w : Web) (headers : List (String × String)) (call : Call) :
    (w.perform headers call).reply = replyOf (target call) (w.perform headers call).web.latest := by
  unfold perform
  split
  · obtain ⟨k, hleast, hsent⟩ :=
      sendAgain_sentTimes headers (target call) (w.attempts.toNat - 1) w
    exact hsent.reply_latest (Enough.pos hleast.1)
  · exact (send_sentTimes w headers (target call)).reply_latest (Nat.le_refl 1)

/-- **Attempts are bounded, and only reads have more than one.** Whatever the number of attempts is
set to and however requests end, a call that only reads sends its request `k` times, where `k` is
the least number that is enough: all attempts, or one at the least, or the place of the first
outcome that will not pass. Every other call sends its request once. The call is answered by its
last outcome. -/
theorem sent_until_enough (w : Web) (headers : List (String × String)) (call : Call) :
    ∃ k, (if call.endpoint.isRead then IsLeast {k | Enough w.attempts w.coming k} k else k = 1) ∧
      (w.perform headers call).web =
        { w with sent := w.sent ++ List.replicate k (w.request headers (target call)) } ∧
      (w.perform headers call).reply = replyOf (target call) (w.coming (k - 1)) := by
  unfold perform
  rw [isRead_eq]
  split
  · obtain ⟨k, hleast, hsent⟩ :=
      sendAgain_sentTimes headers (target call) (w.attempts.toNat - 1) w
    have hattempts : max 1 (((w.attempts.toNat - 1 : Nat) : Int) + 1) = max 1 w.attempts := by omega
    simp only [Enough, hattempts] at hleast
    exact ⟨k, hleast, hsent.web, hsent.reply⟩
  · exact ⟨1, rfl, rfl, rfl⟩

/-- A listing is asked for once more after an error of the server, and then read from its body. -/
theorem sent_until_enough_retried :
    let body := "[7, \"9\"]"
    let outcomes (i : Nat) : Outcome := if i = 0 then .response 503 "busy" else .response 200 body
    let web : Web := ⟨rootOf "" defaultPath, defaultTimeout, defaultAttempts, outcomes, [], false⟩
    let sent := web.perform [] .getFavourites
    sent.web.sent = List.replicate 2 (web.request [] (target .getFavourites)) ∧
      sent.reply = .value (decode body) ∧ (decode body).quoted = "[7, '9']" := by
  intro body outcomes web sent
  obtain ⟨k, hleast, hweb, hreply⟩ := sent_until_enough web [] .getFavourites
  have htwo : IsLeast {k | Enough web.attempts web.coming k} 2 := by
    refine ⟨.inr ⟨1, rfl, rfl⟩, ?_⟩
    rintro j (hused | ⟨i, rfl, hlasting⟩)
    · have hattempts : (j : Int) = 3 := hused
      omega
    · -- the first outcome may pass
      cases i with
      | zero => cases hlasting
      | succ i => omega
  obtain rfl : k = 2 := IsLeast.unique hleast htwo
  refine ⟨?_, hreply, by decide +kernel⟩
  show (web.perform [] .getFavourites).web.sent = _
  rw [hweb]
  rfl

end Web

end Shopfront
