import Shopfront.Proofs.Cart.Transition

/-! Soundness of a cart. Whatever operations begin, whatever replies come and in whatever order, the
visible and the confirmed lines are well-formed: at most one a product, each with a quantity of at
least one and a price. The invariant also covers the lines that operations show while they wait,
since a reply may put those back long after the cart has changed. -/

namespace Shopfront.Cart

structure Sound (c : Cart) : Prop where
  lines : WellFormed c.lines
  confirmed : WellFormed c.confirmed

/-- What an operation shows is a well-formed line of its product, if it is a line. -/
def SoundChange (product : Int) (shown : Option Line) : Prop :=
  ∀ l ∈ shown, l.product = product ∧ l.WellFormed

def SoundPoint (point : Point) : Prop :=
  ∀ product shown, point.change? = some (product, shown) → SoundChange product shown

structure SoundStep (s : Step) : Prop where
  cart : Sound s.state
  point : ∀ a, Underway.callOf? s.progress = some a → SoundPoint a.point

theorem Sound.reset (c : Cart) : Sound c.reset := ⟨wellFormed_nil, wellFormed_nil⟩

theorem Sound.withLine {c : Cart} {product : Int} {shown : Option Line} (h : Sound c)
    (hs : SoundChange product shown) : Sound (settleOn c product shown) :=
  ⟨h.lines.withLine (fun l hl => (hs l hl).1) fun l hl => (hs l hl).2,
    h.confirmed.withLine (fun l hl => (hs l hl).1) fun l hl => (hs l hl).2⟩

theorem soundStep_finish {c : Cart} (h : Sound c) (result : Result) :
    SoundStep (.finish c result) := ⟨h, fun _ ha => nomatch ha⟩

theorem SoundStep.after {s : Step} (h : SoundStep s) (entries : Journal) :
    SoundStep (s.after entries) := ⟨h.cart, h.point⟩

theorem soundPoint_loading (next : Next) : SoundPoint (.loading next) :=
  fun _ _ h => nomatch h

theorem soundPoint_of_change {point : Point} {product : Int} {shown : Option Line}
    (h : point.change? = some (product, shown)) (hs : SoundChange product shown) :
    SoundPoint point := by
  intro p s he
  cases h.symm.trans he
  exact hs

theorem Sound.applySnapshot {catalog : Catalog} (hc : Priced catalog) {c : Cart} (h : Sound c)
    (p : Payload) : Sound (c.applySnapshot catalog p) := by
  have hm : WellFormed (merge catalog c.lines (Report.listOf p)).lines :=
    wellFormed_merge hc h.lines.each fun r hr => by
      obtain ⟨entry, _, he⟩ := List.mem_filterMap.mp hr
      exact isPrice_of_mem_report he
  exact ⟨hm, hm⟩

variable {ctx : Context} {c : Cart} (hc : Priced ctx.catalog)
include hc

theorem Change.wellFormed {product : Int} {shown : Option Line} {call : Call}
    (h : Change ctx c product shown call) (hs : Sound c) : ∀ l ∈ shown, l.WellFormed := by
  have known : ∀ {line}, lineOf? product c.lines = some line → line.WellFormed :=
    fun hl => hs.lines.each _ (mem_of_lineOf? hl)
  intro l hl
  cases h with
  | add _ =>
    cases hl
    exact ⟨Int.le_refl 1, isPrice_priceFor hc hs.lines.each product fun _ hd => nomatch hd⟩
  | addAgain hline _ | raise hline _ =>
    cases hl
    obtain ⟨hpos, hprice⟩ := known hline
    exact ⟨Int.le_trans hpos (Int.le_add_of_nonneg_right (by decide)), hprice⟩
  | lower hline _ hq =>
    cases hl
    obtain ⟨_, hprice⟩ := known hline
    exact ⟨Int.le_sub_one_of_lt hq, hprice⟩
  | drop _ _ => cases hl

theorem Continues.sound {s : Step} (h : Continues ctx c s) (hs : Sound c) : SoundStep s := by
  induction h with
  | finish c result => exact soundStep_finish hs _
  | fail c message =>
    refine soundStep_finish ?_ _
    exact ⟨hs.lines, hs.confirmed⟩
  | send hch =>
    have hwf := hch.wellFormed hc hs
    refine ⟨⟨hs.lines.withLine hch.product_eq hwf, hs.confirmed⟩, fun a ha => ?_⟩
    cases ha
    exact soundPoint_of_change rfl fun l hl => ⟨hch.product_eq l hl, hwf l hl⟩
  | load c next _ =>
    refine ⟨⟨hs.lines, hs.confirmed⟩, fun a ha => ?_⟩
    cases ha
    exact soundPoint_loading next
  | empty _ _ ih => exact ih (.reset _)
  | after _ _ ih => exact (ih hs).after _

/-- The line that a reply settles a change on, whatever the reply is. -/
theorem soundChange_settledLine (hs : Sound c) {product : Int} {shown : Option Line}
    (hsh : SoundChange product shown) (reply : Payload) :
    SoundChange product (settledLine ctx c product shown reply) := by
  intro l hl
  rcases mem_settledLine hl with ⟨r, hr, hq, rfl⟩ | ⟨line, hline, rfl⟩
  · exact ⟨rfl, hq, isPrice_priceFor hc hs.lines.each _ (isPrice_of_mem_report hr)⟩
  · obtain ⟨hp, hpos, hprice⟩ := hsh line hline
    exact ⟨hp, hpos, hprice⟩

theorem Settles.sound {product : Int} {shown : Option Line} {reply : Payload} {s : Step}
    (h : Settles ctx c product shown reply s) (hs : Sound c) (hsh : SoundChange product shown) :
    SoundStep s := by
  induction h with
  | snapshot _ =>
    refine soundStep_finish (Sound.applySnapshot hc ?_ _) _
    exact ⟨hs.lines, hs.confirmed⟩
  | line _ hl _ =>
    exact soundStep_finish (hs.withLine (hl ▸ soundChange_settledLine hc hs hsh _)) _
  | unnamed _ hl _ =>
    exact (reload_continues _).sound hc (hs.withLine (hl ▸ soundChange_settledLine hc hs hsh _))
  | after _ _ ih => exact ih.after _

theorem Resumes.sound {point : Point} {reply : Reply} {s : Step}
    (h : Resumes ctx c point reply s) (hs : Sound c) (hp : SoundPoint point) : SoundStep s := by
  induction h with
  | @loaded next p s hcont =>
    refine hcont.sound hc ?_
    have hl := Sound.applySnapshot hc hs p
    exact ⟨hl.lines, hl.confirmed⟩
  | notLoaded _ hcont => exact hcont.sound hc ⟨hs.lines, hs.confirmed⟩
  | fold _ _ _ hch =>
    refine ⟨hs, fun a ha => ?_⟩
    cases ha
    exact soundPoint_of_change rfl (hp _ _ hch)
  | settle hch hset => exact hset.sound hc hs (hp _ _ hch)
  | settleFolded hch hset => exact hset.sound hc ⟨hs.lines, hs.confirmed⟩ (hp _ _ hch)
  | revert _ hcont => exact hcont.sound hc ⟨hs.confirmed, hs.confirmed⟩
  | stop _ => exact ⟨⟨hs.lines, hs.confirmed⟩, fun _ ha => nomatch ha⟩
  | after _ _ ih => exact (ih hp).after _

omit hc

/-! ## Traffic -/

/-- Sound lines in the cart and in every operation that waits. -/
structure Traffic.Sound (t : Traffic) : Prop where
  cart : Cart.Sound t.cart
  points : ∀ a ∈ t.underway.awaited, SoundPoint a.point

theorem Traffic.sound_start : Traffic.start.Sound :=
  ⟨⟨wellFormed_nil, wellFormed_nil⟩, fun _ h => nomatch h⟩

theorem Traffic.Sound.step {t : Traffic} (h : t.Sound) {s : Step} (hs : SoundStep s) :
    (t.step s).Sound := by
  refine ⟨hs.cart, fun a ha => ?_⟩
  rw [Traffic.awaited_step, List.mem_append] at ha
  rcases ha with ha | ha
  · exact h.points a ha
  · exact hs.point a (Option.mem_toList.mp ha)

theorem Traffic.Sound.handle {catalog : Catalog} (hc : Priced catalog) {t : Traffic}
    (h : t.Sound) (e : Event) : (t.handle catalog e).Sound := by
  cases e with
  | begin authenticated request =>
    exact h.step ((begin_continues request).sound hc h.cart)
  | reply place authenticated reply =>
    simp only [Traffic.handle]
    split
    · next a ha =>
      have hmem := Underway.mem_awaited_take ha
      have htake : (t.take place).Sound := ⟨h.cart, fun b hb => h.points b ((hmem b).mpr (.inr hb))⟩
      exact htake.step
        ((resume_resumes a.point reply).sound hc h.cart (h.points a ((hmem a).mpr (.inl rfl))))
    · exact h
  | applySnapshot p => exact ⟨h.cart.applySnapshot hc p, h.points⟩
  | reset => exact ⟨.reset _, h.points⟩

theorem Traffic.Sound.run {catalog : Catalog} (hc : Priced catalog) {t : Traffic} (h : t.Sound)
    (events : List Event) : (t.run catalog events).Sound := by
  induction events generalizing t with
  | nil => exact h
  | cons e es ih => exact ih (h.handle hc e)

/-- **The lines are well-formed at every moment.** However operations on a cart interleave, and
whatever the service replies to them, the visible and the confirmed lines have distinct products,
quantities of at least one, and prices that are finite and not below zero. -/
theorem Traffic.wellFormed_run (listing : Payload) (events : List Event) :
    let c := (Traffic.start.run (Catalog.ofPayload listing) events).cart
    WellFormed c.lines ∧ WellFormed c.confirmed := by
  have h := sound_start.run (priced_ofPayload listing) events
  exact ⟨h.cart.lines, h.cart.confirmed⟩

end Shopfront.Cart
