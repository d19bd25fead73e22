import Shopfront.Proofs.Cart.Mirror
import Shopfront.Proofs.Cart.Row

/-! Changes that fail are undone. However operations overlap and whatever the service replies, the
visible line of a product is the confirmed one unless a change of it is under way, so a cart that
nothing is changing shows its confirmed lines. Main statement: this, and that an operation which then
runs on its own and fails leaves the lines as it has found them or as it has loaded them last
(`Traffic.undone`). -/

namespace Shopfront.Cart

/-! ## One line a product -/

/-- The visible and the confirmed lines have distinct products. -/
structure Distinct (c : Cart) : Prop where
  lines : (c.lines.map (·.product)).Nodup
  confirmed : (c.confirmed.map (·.product)).Nodup

/-- Distinct products after a step, and a line of its own product where the step shows one. -/
structure DistinctStep (s : Step) : Prop where
  cart : Distinct s.state
  fits : ∀ a, Underway.callOf? s.progress = some a → a.point.Fits

theorem distinct_reset (c : Cart) : Distinct c.reset := ⟨List.nodup_nil, List.nodup_nil⟩

theorem distinct_applySnapshot (catalog : Catalog) (p : Payload) (c : Cart) :
    Distinct (c.applySnapshot catalog p) :=
  ⟨nodup_merge catalog c.lines _, nodup_merge catalog c.lines _⟩

theorem nodup_withLine {product : Int} {shown : Option Line} {lines : List Line}
    (hs : ∀ l ∈ shown, l.product = product) (h : (lines.map (·.product)).Nodup) :
    ((withLine product shown lines).map (·.product)).Nodup := by
  rw [withLine_eq_settleBy]
  exact nodup_settleBy hs h

theorem fits_of_change {point : Point} {product : Int} {shown : Option Line}
    (h : point.change? = some (product, shown)) (hs : ∀ l ∈ shown, l.product = product) :
    point.Fits := by
  intro p s he
  cases h.symm.trans he
  exact hs

theorem fits_loading (next : Next) : (Point.loading next).Fits := fun _ _ h => nomatch h

variable {ctx : Context} {c : Cart}

theorem distinctStep_finish (h : Distinct c) (result : Result) : DistinctStep (.finish c result) :=
  ⟨h, fun _ ha => nomatch ha⟩

theorem DistinctStep.after {s : Step} (h : DistinctStep s) (entries : Journal) :
    DistinctStep (s.after entries) := ⟨h.cart, h.fits⟩

theorem Continues.distinct {s : Step} (h : Continues ctx c s) (hd : Distinct c) :
    DistinctStep s := by
  induction h with
  | finish _ _ => exact distinctStep_finish hd _
  | fail c message =>
    refine distinctStep_finish ?_ _
    exact ⟨hd.lines, hd.confirmed⟩
  | send hch =>
    refine ⟨⟨nodup_withLine hch.product_eq hd.lines, hd.confirmed⟩, fun a ha => ?_⟩
    cases ha
    exact fits_of_change rfl hch.product_eq
  | load c next _ =>
    refine ⟨⟨hd.lines, hd.confirmed⟩, fun a ha => ?_⟩
    cases ha
    exact fits_loading next
  | empty _ _ ih => exact ih (distinct_reset _)
  | after _ _ ih => exact (ih hd).after _

theorem Settles.distinct {product : Int} {shown : Option Line} {reply : Payload} {s : Step}
    (h : Settles ctx c product shown reply s) (hd : Distinct c)
    (hs : ∀ l ∈ shown, l.product = product) : DistinctStep s := by
  have settled : ∀ {line}, settledLine ctx c product shown reply = line →
      Distinct (settleOn c product line) := by
    rintro line rfl
    have hline : ∀ l ∈ settledLine ctx c product shown reply, l.product = product :=
      product_eq_settledLine hs
    exact ⟨nodup_withLine hline hd.lines, nodup_withLine hline hd.confirmed⟩
  induction h with
  | snapshot _ => exact distinctStep_finish (distinct_applySnapshot _ _ _) _
  | line _ hl _ => exact distinctStep_finish (settled hl) _
  | unnamed _ hl _ => exact (reload_continues _).distinct (settled hl)
  | after _ _ ih => exact ih.after _

theorem Resumes.distinct {point : Point} {reply : Reply} {s : Step}
    (h : Resumes ctx c point reply s) (hd : Distinct c) (hp : point.Fits) : DistinctStep s := by
  induction h with
  | @loaded next p s hcont =>
    have hl := distinct_applySnapshot ctx.catalog p c
    exact hcont.distinct ⟨hl.lines, hl.confirmed⟩
  | notLoaded _ hcont => exact hcont.distinct ⟨hd.lines, hd.confirmed⟩
  | fold _ _ _ hch =>
    refine ⟨hd, fun a ha => ?_⟩
    cases ha
    exact fits_of_change rfl (hp _ _ hch)
  | settle hch hset => exact hset.distinct hd (hp _ _ hch)
  | settleFolded hch hset => exact hset.distinct ⟨hd.lines, hd.confirmed⟩ (hp _ _ hch)
  | revert _ hcont => exact hcont.distinct ⟨hd.confirmed, hd.confirmed⟩
  | stop _ => exact ⟨⟨hd.lines, hd.confirmed⟩, fun _ ha => nomatch ha⟩
  | after _ _ ih => exact (ih hp).after _

/-! ## Traffic -/

namespace Traffic

/-- Replies are values or failures. -/
def Event.Regular : Event → Prop
  | .reply _ _ r => ∀ fault, r ≠ .fault fault
  | _ => True

structure Mirrored (t : Traffic) : Prop where
  distinct : Distinct t.cart
  fits : ∀ a ∈ t.underway.awaited, a.point.Fits
  mirrors : Mirrors t.cart t.underway.awaited

variable {catalog : Catalog} {t : Traffic}

theorem mirrored_start : start.Mirrored :=
  ⟨⟨List.nodup_nil, List.nodup_nil⟩, (fun _ ha => nomatch ha), mirrors_of_eq rfl _⟩

theorem mirrored_step {s : Step} (hd : DistinctStep s)
    (hfits : ∀ a ∈ t.underway.awaited, a.point.Fits)
    (hm : MirrorStep s t.underway.awaited) : (t.step s).Mirrored := by
  refine ⟨hd.cart, fun a ha => ?_, ?_⟩
  · rw [awaited_step, List.mem_append] at ha
    rcases ha with ha | ha
    · exact hfits a ha
    · exact hd.fits a (Option.mem_toList.mp ha)
  · show Mirrors s.state (t.step s).underway.awaited
    rwa [awaited_step]

theorem Mirrored.handle (h : t.Mirrored) {e : Event} (he : e.Regular) :
    (t.handle catalog e).Mirrored := by
  cases e with
  | begin authenticated request =>
    have hcont : Continues ⟨authenticated, catalog⟩ t.cart _ := begin_continues request
    exact mirrored_step (hcont.distinct h.distinct) h.fits (hcont.mirrors h.mirrors)
  | reply place authenticated reply =>
    simp only [Traffic.handle]
    split
    · next a ha =>
      have hmem := Underway.mem_awaited_take ha
      have hres : Resumes ⟨authenticated, catalog⟩ t.cart a.point reply _ :=
        resume_resumes a.point reply
      have hfit := h.fits a ((hmem a).mpr (.inl rfl))
      have hmirrors : Mirrors t.cart (⟨a.call, a.point⟩ :: (t.take place).underway.awaited) := by
        intro p hp
        refine h.mirrors p fun ⟨b, hb, hch⟩ => hp ⟨b, ?_, hch⟩
        exact List.mem_cons.mpr ((hmem b).mp hb)
      exact mirrored_step (t := t.take place) (hres.distinct h.distinct hfit)
        (fun b hb => h.fits b ((hmem b).mpr (.inr hb))) (hres.mirrors he hfit hmirrors)
    · exact h
  | applySnapshot p => exact ⟨distinct_applySnapshot _ _ _, h.fits, mirrors_of_eq rfl _⟩
  | reset => exact ⟨distinct_reset _, h.fits, mirrors_of_eq rfl _⟩

theorem Mirrored.run (h : t.Mirrored) {events : List Event} (he : ∀ e ∈ events, e.Regular) :
    (t.run catalog events).Mirrored := by
  induction events generalizing t with
  | nil => exact h
  | cons e es ih =>
    obtain ⟨hreg, hes⟩ := List.forall_mem_cons.mp he
    exact ih (h.handle hreg) hes

end Traffic

/-! ## An operation on its own -/

/-- The lines that an operation has after a reply if it loads the cart again: those of the cart that
it has asked for, or none where it would ask without a credential. -/
def reloaded? (catalog : Catalog) (authenticated : Bool) (c : Cart) : Point → Reply →
    Option (List Line)
  | .loading _, .value p => some (c.applySnapshot catalog p).lines
  | .sending _ _ true, .failure _ => if authenticated then none else some []
  | .folding .., .failure _ => if authenticated then none else some []
  | _, _ => none

/-- The steps of an operation on its own. With each come the lines that the operation has found, or
those that it has loaded last. -/
inductive Solo (catalog : Catalog) (c : Cart) (request : Request) : List Line → Step → Prop
  | begin (authenticated) :
      Solo catalog c request c.lines (begin ⟨authenticated, catalog⟩ c request)
  | reply {since s call point} (authenticated reply) : Solo catalog c request since s →
      s.progress = .calling call point → (∀ fault, reply ≠ .fault fault) →
      Solo catalog c request ((reloaded? catalog authenticated s.state point reply).getD since)
        (resume ⟨authenticated, catalog⟩ s.state point reply)

/-- The same line for each product. -/
def SameLines (lines lines' : List Line) : Prop := ∀ p, lineOf? p lines = lineOf? p lines'

theorem SameLines.perm {lines lines' : List Line} (h : SameLines lines lines')
    (hd : (lines.map (·.product)).Nodup) (hd' : (lines'.map (·.product)).Nodup) :
    lines.Perm lines' := by
  have mem : ∀ {ls : List Line}, (ls.map (·.product)).Nodup → ∀ l,
      l ∈ ls ↔ lineOf? l.product ls = some l :=
    fun hls l => ⟨lineOf?_of_mem hls, mem_of_lineOf?⟩
  refine (List.perm_ext_iff_of_nodup (.of_map _ hd) (.of_map _ hd')).mpr fun l => ?_
  rw [mem hd, mem hd', h l.product]

/-- A step that can still go back to the lines, and is back at them if it is the end and a failure.
Only a load that ends a success is of no concern. -/
structure Restores (since : List Line) (s : Step) : Prop where
  confirmed : ∀ call point, s.progress = .calling call point → point ≠ .loading .succeed →
    SameLines s.state.confirmed since
  lines : ∀ call next, s.progress = .calling call (.loading next) → next ≠ .succeed →
    SameLines s.state.lines since
  failed : s.progress = .finished (.done false) → SameLines s.state.lines since

variable {since : List Line}

theorem Restores.after {s : Step} (h : Restores since s) (entries : Journal) :
    Restores since (s.after entries) := ⟨h.confirmed, h.lines, h.failed⟩

theorem restores_finish (h : SameLines c.lines since) (result : Result) :
    Restores since (.finish c result) := by
  refine ⟨fun _ _ he => ?_, fun _ _ he => ?_, fun _ => h⟩ <;> cases he

theorem restores_send (h : SameLines c.confirmed since) (product : Int) (shown : Option Line)
    (call : Call) : Restores since (send c product shown call) := by
  refine ⟨fun _ _ _ _ => h, fun _ _ he => ?_, fun he => ?_⟩ <;> cases he

/-- Whether an operation has succeeded, or will when it has loaded the cart. -/
def Succeeds (s : Step) : Prop :=
  s.progress = .finished (.done true) ∨ ∃ call, s.progress = .calling call (.loading .succeed)

theorem Succeeds.restores {s : Step} (h : Succeeds s) : Restores since s := by
  rcases h with h | ⟨call, h⟩
  · refine ⟨fun _ _ he => ?_, fun _ _ he => ?_, fun he => ?_⟩ <;> cases h.symm.trans he
  · refine ⟨fun _ _ he hne => ?_, fun _ _ he hne => ?_, fun he => ?_⟩
    · cases h.symm.trans he
      exact absurd rfl hne
    · cases h.symm.trans he
      exact absurd rfl hne
    · cases h.symm.trans he

/-- A cart that nothing is changing, with the lines to go back to. -/
structure Settled (since : List Line) (c : Cart) : Prop where
  lines : SameLines c.lines since
  confirmed : SameLines c.confirmed since

theorem Settled.restores_removeKnown (h : Settled since c) (product : Int) (id : Reference) :
    Restores since (removeKnown ctx c product id) := by
  unfold removeKnown
  split
  · exact restores_send h.confirmed _ _ _
  · exact (restores_finish h.lines _).after _

theorem Settled.restores_decreaseKnown (h : Settled since c) (product : Int) (line : Line)
    (id : Reference) : Restores since (decreaseKnown ctx c product line id) := by
  unfold decreaseKnown
  split
  · exact h.restores_removeKnown _ _
  · exact restores_send h.confirmed _ _ _

theorem Settled.restores_proceed (h : Settled since c) (next : Next) :
    Restores since (proceed ctx c next) := by
  cases next with
  | nothing => exact restores_finish h.lines _
  | succeed => exact Succeeds.restores (.inl rfl)
  | fail message => exact restores_finish (c := { release c with error := _ }) h.lines _
  | decrease product =>
    simp only [proceed]
    split
    · split
      · exact h.restores_decreaseKnown _ _ _
      · exact restores_finish h.lines _
    · exact restores_finish h.lines _
  | remove product =>
    simp only [proceed]
    split
    · exact restores_send h.confirmed _ _ _
    · exact restores_finish h.lines _

theorem Settled.restores_reload (h : Settled since c) (hauth : ctx.authenticated = true)
    (next : Next) : Restores since (reload ctx c next) := by
  rw [reload, if_pos hauth]
  exact ⟨fun _ _ _ _ => h.confirmed, fun _ _ _ _ => h.lines, fun he => by cases he⟩

theorem Settled.restores_increase (h : Settled since c) (product : Int) :
    Restores since (increase ctx c product) := by
  unfold increase
  split
  · exact (restores_send h.confirmed _ _ _).after _
  · split <;> exact restores_send h.confirmed _ _ _

theorem Settled.restores_remove (h : Settled since c) (hauth : ctx.authenticated = true)
    (product : Int) : Restores since (remove ctx c product) := by
  unfold remove
  split
  · exact restores_finish h.lines _
  · split
    · exact restores_send h.confirmed _ _ _
    · exact h.restores_reload hauth _

theorem Settled.restores_decrease (h : Settled since c) (hauth : ctx.authenticated = true)
    (product : Int) : Restores since (decrease ctx c product) := by
  unfold decrease
  split
  · exact restores_finish h.lines _
  · split
    · exact h.restores_remove hauth product
    · split
      · exact h.restores_decreaseKnown _ _ _
      · exact h.restores_reload hauth _

theorem Settled.restores_gated (h : Settled since c) {run : Int → Step}
    (hrun : ctx.authenticated = true → ∀ product, Restores since (run product)) (action : String)
    (product : Payload) : Restores since (gated ctx c action product run) := by
  unfold gated gate
  split
  · next hg =>
    split at hg
    · next hauth => exact hrun hauth _
    · cases hg
  · exact (restores_finish h.lines _).after _

theorem Settles.succeeds {product : Int} {shown : Option Line} {reply : Payload} {s : Step}
    (h : Settles ctx c product shown reply s) : Succeeds s := by
  induction h with
  | snapshot _ => exact .inl rfl
  | line _ _ _ => exact .inl rfl
  | unnamed _ _ _ =>
    unfold reload
    split
    · exact .inr ⟨_, rfl⟩
    · exact .inl rfl
  | after _ _ ih => exact ih

theorem restores_foldNext (h : SameLines c.confirmed since) (product : Int) (shown : Option Line)
    (p : Payload) (rest : List Reference) :
    Restores since (foldNext ctx c product shown p rest) := by
  cases rest with
  | nil => exact (settle_settles _ _ _).succeeds.restores
  | cons id rest =>
    refine Restores.after ⟨fun _ _ _ _ => h, fun _ _ he => ?_, fun he => ?_⟩ _ <;> cases he

theorem Settled.restores_begin (h : Settled since c) (request : Request) :
    Restores since (begin ctx c request) := by
  cases request with
  | increase product => exact h.restores_gated (fun _ => h.restores_increase) _ _
  | decrease product => exact h.restores_gated h.restores_decrease _ _
  | remove product => exact h.restores_gated h.restores_remove _ _
  | refresh =>
    show Restores since (reload ctx c .nothing)
    by_cases hauth : ctx.authenticated = true
    · exact h.restores_reload hauth _
    · rw [reload, if_neg hauth]
      refine ⟨fun _ _ he => ?_, fun _ _ he => ?_, fun he => ?_⟩ <;> cases he

/-- A failure takes a change back to the confirmed lines, also if the cart is loaded again then. -/
theorem restores_revert (h : SameLines c.confirmed since) (product : Int) {folding : Bool}
    (hauth : folding = true → ctx.authenticated = true) (f : Failure) :
    Restores since (revert ctx c product folding f) := by
  have hback : Settled since { c with lines := c.confirmed } := ⟨h, h⟩
  refine Restores.after ?_ _
  cases folding with
  | false =>
    rw [if_neg Bool.false_ne_true]
    exact hback.restores_proceed _
  | true => exact hback.restores_reload (hauth rfl) (.fail _)

theorem restores_revert_anonymous (hauth : ctx.authenticated = false) (product : Int) (f : Failure) :
    Restores [] (revert ctx c product true f) := by
  have hnone : Settled [] ({ c with lines := c.confirmed }.reset) := ⟨fun _ => rfl, fun _ => rfl⟩
  refine Restores.after ?_ _
  rw [if_pos rfl, reload, if_neg (Bool.eq_false_iff.mp hauth)]
  exact hnone.restores_proceed _

theorem Restores.resume {catalog : Catalog} {s : Step} {call : Call} {point : Point}
    (h : Restores since s) (hs : s.progress = .calling call point) (authenticated : Bool)
    {reply : Reply} (hr : ∀ fault, reply ≠ .fault fault) :
    Restores ((reloaded? catalog authenticated s.state point reply).getD since)
      (resume ⟨authenticated, catalog⟩ s.state point reply) := by
  cases reply with
  | fault fault => exact absurd rfl (hr fault)
  | value p =>
    cases point with
    | loading next =>
      have hfresh : Settled (s.state.applySnapshot catalog p).lines
          (loaded ⟨authenticated, catalog⟩ s.state p) := ⟨fun _ => rfl, fun _ => rfl⟩
      exact (hfresh.restores_proceed next).after _
    | sending product shown folding =>
      cases folding with
      | false => exact (settle_settles _ _ _).succeeds.restores
      | true => exact restores_foldNext (h.confirmed _ _ hs nofun) _ _ _ _
    | folding product shown rest => exact restores_foldNext (h.confirmed _ _ hs nofun) _ _ _ _
  | failure f =>
    cases point with
    | loading next =>
      refine Restores.after ?_ _
      by_cases hnext : next = .succeed
      · subst hnext
        exact Succeeds.restores (.inl rfl)
      · have hkept : Settled since
            (release { s.state with error := some (f.userMessage loadFailed) }) :=
          ⟨h.lines _ _ hs hnext, h.confirmed _ _ hs (by simpa using hnext)⟩
        exact hkept.restores_proceed next
    | sending product shown folding =>
      have hback := h.confirmed _ _ hs nofun
      cases folding with
      | false => exact restores_revert hback product (fun hf => Bool.noConfusion hf) f
      | true =>
        cases authenticated with
        | true => exact restores_revert hback product (fun _ => rfl) f
        | false => exact restores_revert_anonymous rfl product f
    | folding product shown rest =>
      have hback := h.confirmed _ _ hs nofun
      cases authenticated with
      | true => exact restores_revert hback product (fun _ => rfl) f
      | false => exact restores_revert_anonymous rfl product f

theorem Solo.restores {catalog : Catalog} {request : Request} {s : Step}
    (h : Solo catalog c request since s) (hc : SameLines c.lines c.confirmed) :
    Restores since s := by
  induction h with
  | begin authenticated =>
    exact Settled.restores_begin ⟨fun _ => rfl, fun p => (hc p).symm⟩ request
  | reply authenticated reply _ hs hr ih => exact ih.resume hs authenticated hr

/-- **Nothing is left of a failed change.** Let operations on a cart overlap in any way, and let the
service reply with any values and failures. A product's visible line is the confirmed one, or both are
absent, unless a change of it is under way. So while none is, the visible and the confirmed lines are
the same, and an operation that then runs on its own and fails leaves each product's visible line as
it was, or as a load of its own has left it. -/
theorem Traffic.undone (catalog : Catalog) (events : List Event)
    (hevents : ∀ e ∈ events, e.Regular) :
    let t := start.run catalog events
    (∀ p, ¬Busy t.underway.awaited p → lineOf? p t.cart.lines = lineOf? p t.cart.confirmed) ∧
      ((∀ p, ¬Busy t.underway.awaited p) → t.cart.lines.Perm t.cart.confirmed ∧
        ∀ request since s, Solo catalog t.cart request since s →
          s.progress = .finished (.done false) →
          ∀ p, lineOf? p s.state.lines = lineOf? p since) := by
  intro t
  obtain ⟨hdistinct, _, hmirrors⟩ : t.Mirrored := mirrored_start.run hevents
  refine ⟨hmirrors, fun hidle => ?_⟩
  have hsame : SameLines t.cart.lines t.cart.confirmed := fun p => hmirrors p (hidle p)
  exact ⟨hsame.perm hdistinct.lines hdistinct.confirmed, fun request since s hsolo hfailed =>
    (hsolo.restores hsame).failed hfailed⟩

/-- Two changes overlap, and the first fails while the second goes through. Then a change of a product
with two lines runs on its own and fails, which loads the cart again. -/
theorem Traffic.undone_overlapping :
    let row : Int → Int → Int → Payload := fun id product quantity =>
      .object [("id", .int id), ("quantity", .int quantity), ("sneaker_id", .int product)]
    let failure : Failure := ⟨"refused", some 500, .null⟩
    let events : List Event :=
      [.applySnapshot (.list [row 1 7 2, row 2 7 1, row 3 9 2]), .begin true (.decrease (.int 9)),
        .begin true (.increase (.int 5)), .reply 0 true (.failure failure),
        .reply 0 true (.value (row 4 5 1))]
    let t := start.run .empty events
    let sent := begin ⟨true, .empty⟩ t.cart (.increase (.int 7))
    let loading := resume ⟨true, .empty⟩ sent.state
      (.sending 7 (some ⟨some (.number 1), 7, 4, .zero⟩) true) (.failure failure)
    let last := resume ⟨true, .empty⟩ loading.state (.loading (.fail updateFailed))
      (.value (.list [row 1 7 4, row 2 7 1]))
    let loaded := (loading.state.applySnapshot .empty (.list [row 1 7 4, row 2 7 1])).lines
    (∀ e ∈ events, e.Regular) ∧ (∀ p, ¬Busy t.underway.awaited p) ∧
      Solo .empty t.cart (.increase (.int 7)) loaded last ∧ last.progress = .finished (.done false) ∧
      t.cart.lines.Perm t.cart.confirmed ∧
      ∀ p, lineOf? p last.state.lines = lineOf? p loaded := by
  intro row failure events t sent loading last loaded
  have hevents : ∀ e ∈ events, e.Regular := by simp [events, Event.Regular]
  have hquiet : t.underway.awaited = [] := List.isEmpty_iff.mp (by decide +kernel)
  have hidle : ∀ p, ¬Busy t.underway.awaited p := by
    rintro p ⟨a, ha, _⟩
    rw [hquiet] at ha
    cases ha
  have hsent : Solo .empty t.cart (.increase (.int 7)) t.cart.lines sent := .begin true
  have hwaits : sent.progress = .calling (.updateCartLine (.int 1) 4)
      (.sending 7 (some ⟨some (.number 1), 7, 4, .zero⟩) true) := by rfl
  have hloads : loading.progress = .calling .getCart (.loading (.fail updateFailed)) := by rfl
  have hloading : Solo .empty t.cart (.increase (.int 7)) t.cart.lines loading :=
    hsent.reply true (.failure failure) hwaits nofun
  have hlast : Solo .empty t.cart (.increase (.int 7)) loaded last :=
    hloading.reply true (.value (.list [row 1 7 4, row 2 7 1])) hloads nofun
  have hfailed : last.progress = .finished (.done false) := by rfl
  obtain ⟨hperm, hundone⟩ := (undone .empty events hevents).2 hidle
  exact ⟨hevents, hidle, hlast, hfailed, hperm, hundone _ _ _ hlast hfailed⟩

end Shopfront.Cart
