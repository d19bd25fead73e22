import Shopfront.Proofs.Cart.Transition

/-! Whose lines the ids in a cart are. Ids come into a cart with what it is told: as the id of a
reported line, or taken from a reply for a line that is shown without one. From there they go with
the lines, into what operations show and into the calls. Main statement: the cart and its calls keep to
any account of which ids belong to which product, as long as what the cart is told agrees with it
(`Traffic.Owned.handle`). -/

namespace Shopfront.Cart

open Underway (callOf?)

/-- What a cart is told: the answer to a call, or a snapshot from elsewhere. -/
inductive Told where
  | reply (a : Awaited Point) (payload : Payload)
  | snapshot (payload : Payload)

/-- The lines in the answer to a change: those of the whole cart, or one. -/
def changeReports (p : Payload) : List Report :=
  if isSnapshot p then Report.listOf p else (Report.ofPayload? p).toList

def reportsIn (call : Call) (p : Payload) : List Report :=
  match call with
  | .getCart => Report.listOf p
  | _ => changeReports p

def Told.reports : Told → List Report
  | .reply a p => reportsIn a.call p
  | .snapshot p => Report.listOf p

/-- A reply that is not about the product carries an id, and the product's line is shown without
one. -/
structure Takes (product : Int) (shown : Option Line) (p : Payload) (id : Reference) : Prop where
  unnamed : ∃ line, shown = some line ∧ line.id = none
  single : isSnapshot p = false
  elsewhere : ∀ r ∈ Report.ofPayload? p, r.product ≠ product
  acknowledged : acknowledgedId? p = some id

/-- The id goes from an answer to the product's line. -/
inductive Adopts (c : Cart) : Told → Int → Reference → Prop
  | mk {a : Awaited Point} {p product shown id} : a.point.settling? c = some (product, shown) →
      Takes product shown p id → Adopts c (.reply a p) product id

/-- An account of the lines of the service: which ids belong to which product. -/
abbrev Account := Int → Reference → Prop

/-- What the cart is told agrees with an account. -/
structure Accounted (own : Account) (c : Cart) (x : Told) : Prop where
  reports : ∀ r ∈ x.reports, ∀ id ∈ r.id, own r.product id
  adopts : ∀ product id, Adopts c x product id → own product id

/-- An id of the line is one of its product. -/
def Line.Owned (own : Account) (l : Line) : Prop := ∀ id ∈ l.id, own l.product id

/-- What is shown in the place of the product's line is a line of the product. -/
def OwnedChange (own : Account) (product : Int) (shown : Option Line) : Prop :=
  ∀ l ∈ shown, l.product = product ∧ l.Owned own

structure Owned (own : Account) (c : Cart) : Prop where
  lines : ∀ l ∈ c.lines, l.Owned own
  confirmed : ∀ l ∈ c.confirmed, l.Owned own
  folded : ∀ x ∈ c.folded, own x.1 x.2

/-- A call with the point where its operation waits. It names no line but one of the product that
the operation changes. A line that is put shows its id, and one that is dropped leaves nothing to
show. -/
inductive Keeps (own : Account) : Awaited Point → Prop
  | load (next) : Keeps own ⟨.getCart, .loading next⟩
  | add {product shown} (quantity folding) : OwnedChange own product shown →
      Keeps own ⟨.addToCart product quantity, .sending product shown folding⟩
  | put {product l id} (quantity folding) : l.product = product → l.id = some id →
      own product id →
      Keeps own ⟨.updateCartLine id.payload quantity, .sending product (some l) folding⟩
  | drop {product id} (folding) : own product id →
      Keeps own ⟨.removeCartLine id.payload, .sending product none folding⟩
  | fold {product shown id rest} : OwnedChange own product shown → own product id →
      (∀ id ∈ rest, own product id) →
      Keeps own ⟨.removeCartLine id.payload, .folding product shown rest⟩

structure OwnedStep (own : Account) (s : Step) : Prop where
  cart : Owned own s.state
  call : ∀ a ∈ callOf? s.progress, Keeps own a

variable {own own' : Account} {ctx : Context} {c : Cart} {product : Int} {shown : Option Line}
variable {p : Payload} {id : Reference} {s : Step} {a : Awaited Point}

/-! ## Larger accounts -/

section Mono

variable (h : ∀ product id, own product id → own' product id)
include h

theorem Line.Owned.mono {l : Line} (hl : l.Owned own) : l.Owned own' :=
  fun id hid => h _ id (hl id hid)

theorem OwnedChange.mono (hs : OwnedChange own product shown) : OwnedChange own' product shown :=
  fun l hl => ⟨(hs l hl).1, (hs l hl).2.mono h⟩

theorem Owned.mono (hc : Owned own c) : Owned own' c where
  lines l hl := (hc.lines l hl).mono h
  confirmed l hl := (hc.confirmed l hl).mono h
  folded x hx := h _ _ (hc.folded x hx)

theorem Keeps.mono (ha : Keeps own a) : Keeps own' a := by
  cases ha with
  | load next => exact .load next
  | add quantity folding hs => exact .add quantity folding (hs.mono h)
  | put quantity folding hp hid hown => exact .put quantity folding hp hid (h _ _ hown)
  | drop folding hown => exact .drop folding (h _ _ hown)
  | fold hs hown hrest => exact .fold (hs.mono h) (h _ _ hown) fun id hid => h _ id (hrest id hid)

end Mono

/-! ## Lines -/

theorem Owned.reset (c : Cart) : Owned own c.reset where
  lines _ hl := nomatch hl
  confirmed _ hl := nomatch hl
  folded _ hx := nomatch hx

theorem owned_withLine {lines : List Line} (h : ∀ l ∈ lines, l.Owned own)
    (hs : ∀ l ∈ shown, l.Owned own) : ∀ l ∈ withLine product shown lines, l.Owned own := by
  intro l hl
  rw [withLine_eq_settleBy] at hl
  exact (mem_settleBy hl).elim (hs l) (h l)

theorem Owned.of_foldedIds (h : Owned own c) :
    ∀ id ∈ foldedIds product c.folded, own product id := by
  intro id hid
  obtain ⟨x, hx, rfl⟩ := List.mem_map.mp hid
  obtain ⟨hmem, hp⟩ := List.mem_filter.mp hx
  have hp : x.1 = product := by simpa using hp
  exact hp ▸ h.folded x hmem

theorem Owned.settleOn (h : Owned own c) (hs : ∀ l ∈ shown, l.Owned own) :
    Owned own (settleOn c product shown) where
  lines := owned_withLine h.lines hs
  confirmed := owned_withLine h.confirmed hs
  folded := h.folded

/-- The lines collected from a snapshot, and the ids of those that were folded into them. -/
structure Merge.Owned (own : Account) (m : Merge) : Prop where
  lines : ∀ l ∈ m.lines, l.Owned own
  folded : ∀ x ∈ m.folded, own x.1 x.2

theorem Merge.Owned.add {m : Merge} (h : m.Owned own) {r : Report}
    (hr : ∀ id ∈ r.id, own r.product id) (catalog : Catalog) (visible : List Line) :
    (m.add catalog visible r).Owned own := by
  unfold Merge.add
  split
  · exact h
  split
  · constructor
    · intro l hl
      obtain ⟨l', hl', rfl⟩ := List.mem_map.mp hl
      split
      · exact h.lines l' hl'
      · exact h.lines l' hl'
    · intro x hx
      unfold Merge.fold at hx
      split at hx
      · next id hid =>
        rcases List.mem_append.mp hx with hx | hx
        · exact h.folded x hx
        · cases List.mem_singleton.mp hx
          exact hr id hid
      · exact h.folded x hx
  · constructor
    · intro l hl
      rcases List.mem_append.mp hl with hl | hl
      · exact h.lines l hl
      · cases List.mem_singleton.mp hl
        exact hr
    · exact h.folded

theorem owned_merge {reports : List Report}
    (hr : ∀ r ∈ reports, ∀ id ∈ r.id, own r.product id) (catalog : Catalog) (visible : List Line) :
    (merge catalog visible reports).Owned own := by
  suffices h : ∀ m : Merge, m.Owned own →
      (reports.foldl (Merge.add catalog visible) m).Owned own from
    h ⟨[], [], []⟩ ⟨fun _ hl => (nomatch hl), fun _ hx => (nomatch hx)⟩
  induction reports with
  | nil => exact fun _ hm => hm
  | cons r rs ih =>
    intro m hm
    exact ih (fun x hx => hr x (List.mem_cons_of_mem _ hx)) _
      (hm.add (hr r List.mem_cons_self) catalog visible)

theorem owned_applySnapshot (h : ∀ r ∈ Report.listOf p, ∀ id ∈ r.id, own r.product id)
    (catalog : Catalog) (c : Cart) : Owned own (c.applySnapshot catalog p) := by
  have hm := owned_merge h catalog c.lines
  exact ⟨hm.lines, hm.lines, hm.folded⟩

/-! ## Steps -/

theorem OwnedStep.after (h : OwnedStep own s) (entries : Journal) :
    OwnedStep own (s.after entries) := ⟨h.cart, h.call⟩

theorem ownedStep_finish (h : Owned own c) (result : Result) : OwnedStep own (.finish c result) :=
  ⟨h, fun _ ha => nomatch ha⟩

theorem ownedStep_call {call : Call} {point : Point} (h : Owned own c)
    (hkeeps : Keeps own ⟨call, point⟩) : OwnedStep own (.call c call point) := by
  refine ⟨h, fun a ha => ?_⟩
  cases ha
  exact hkeeps

theorem Change.ownedChange {call : Call} (h : Change ctx c product shown call) (hc : Owned own c) :
    OwnedChange own product shown := by
  refine fun l hl => ⟨h.product_eq l hl, ?_⟩
  cases h with
  | add _ =>
    cases hl
    exact fun _ hid => nomatch hid
  | addAgain hline _ | raise hline _ | lower hline _ _ =>
    cases hl
    have hown := hc.lines _ (mem_of_lineOf? hline)
    exact hown
  | drop _ _ => cases hl

theorem Change.keeps {call : Call} (h : Change ctx c product shown call) (hc : Owned own c)
    (folding : Bool) : Keeps own ⟨call, .sending product shown folding⟩ := by
  have hs := h.ownedChange hc
  have known : ∀ {line : Line} {id}, lineOf? product c.lines = some line → line.id = some id →
      line.product = product ∧ own product id := by
    intro line id hl hid
    have hp := product_of_lineOf? hl
    exact ⟨hp, hp ▸ hc.lines line (mem_of_lineOf? hl) id hid⟩
  cases h with
  | add _ => exact .add 1 folding hs
  | addAgain _ _ => exact .add 1 folding hs
  | raise hl hid | lower hl hid _ =>
    obtain ⟨hp, hown⟩ := known hl hid
    exact .put _ folding hp hid hown
  | drop hl hid => exact .drop folding (known hl hid).2

theorem Continues.owned (h : Continues ctx c s) (hc : Owned own c) : OwnedStep own s := by
  induction h with
  | finish c result => exact ownedStep_finish hc result
  | fail c message =>
    refine ownedStep_finish ?_ _
    exact ⟨hc.lines, hc.confirmed, hc.folded⟩
  | send hch =>
    refine ownedStep_call ⟨?_, hc.confirmed, hc.folded⟩ (hch.keeps hc _)
    exact owned_withLine hc.lines fun l hl => (hch.ownedChange hc l hl).2
  | load c next _ => exact ownedStep_call ⟨hc.lines, hc.confirmed, hc.folded⟩ (.load next)
  | empty _ _ ih => exact ih (.reset _)
  | after entries _ ih => exact (ih hc).after entries

theorem begin_owned (h : Owned own c) (request : Request) : OwnedStep own (begin ctx c request) :=
  (begin_continues request).owned h

theorem revert_owned (h : Owned own c) (product : Int) (folding : Bool) (f : Failure) :
    OwnedStep own (revert ctx c product folding f) :=
  (revert_continues product folding f).owned ⟨h.confirmed, h.confirmed, h.folded⟩

/-! ## Replies -/

theorem Keeps.ownedChange (ha : Keeps own a) (h : a.point.change? = some (product, shown)) :
    OwnedChange own product shown := by
  cases ha with
  | load next => cases h
  | add _ _ hs =>
    cases h
    exact hs
  | put _ _ hp hid hown =>
    cases h
    intro l hl
    cases hl
    refine ⟨hp, fun id' hid' => ?_⟩
    cases hid.symm.trans hid'
    exact hp ▸ hown
  | drop _ _ =>
    cases h
    exact fun _ hl => nomatch hl
  | fold hs _ _ =>
    cases h
    exact hs

/-- What a reply brings to a change that it settles agrees with an account. -/
structure AccountedChange (own : Account) (product : Int) (shown : Option Line) (p : Payload) :
    Prop where
  reports : ∀ r ∈ changeReports p, ∀ id ∈ r.id, own r.product id
  takes : ∀ id, Takes product shown p id → own product id

theorem owned_acknowledge (hs : OwnedChange own product shown)
    (h : ∀ id, (∃ line, shown = some line ∧ line.id = none) → acknowledgedId? p = some id →
      own product id) : ∀ l ∈ acknowledge p shown, l.Owned own := by
  intro l hl id hid
  obtain ⟨line, rfl, rfl⟩ := Option.map_eq_some_iff.mp hl
  obtain ⟨hproduct, hline⟩ := hs line rfl
  rcases Option.or_eq_some_iff.mp hid with hid | ⟨hnone, hid⟩
  · exact hline id hid
  · exact hproduct ▸ h id ⟨line, rfl, hnone⟩ hid

theorem owned_lineFromReport (hs : OwnedChange own product shown) {r : Report}
    (hproduct : r.product = product) (hr : ∀ id ∈ r.id, own r.product id) :
    ∀ l ∈ lineFromReport ctx c r shown, l.Owned own := by
  intro l hl
  unfold lineFromReport at hl
  split at hl
  · cases hl
  cases hl
  intro id hid
  rcases Option.or_eq_some_iff.mp hid with hid | ⟨_, hid⟩
  · exact hr id hid
  · obtain ⟨line, rfl, hid⟩ := Option.bind_eq_some_iff.mp hid
    obtain ⟨hline, hown⟩ := hs line rfl
    exact hproduct.trans hline.symm ▸ hown id hid

theorem owned_settledLine (hs : OwnedChange own product shown) (hp : isSnapshot p = false)
    (h : AccountedChange own product shown p) :
    ∀ l ∈ settledLine ctx c product shown p, l.Owned own := by
  -- a reply that is not about the product leaves its line, with an id if there was none
  have acknowledged : (∀ r ∈ Report.ofPayload? p, r.product ≠ product) →
      ∀ l ∈ acknowledge p shown, l.Owned own := fun helse =>
    owned_acknowledge hs fun id hnone hid => h.takes id ⟨hnone, hp, helse, hid⟩
  unfold settledLine
  split
  · next r hr =>
    split
    · next hproduct =>
      have hreported : r ∈ changeReports p := by simp [changeReports, hp, hr]
      exact owned_lineFromReport hs hproduct (h.reports r hreported)
    · next hproduct =>
      refine acknowledged fun r' hr' => ?_
      cases hr.symm.trans hr'
      exact hproduct
  · next hnone => exact acknowledged fun r hr => by cases hnone.symm.trans hr

theorem settle_owned (hc : Owned own c) (hs : OwnedChange own product shown)
    (h : AccountedChange own product shown p) : OwnedStep own (settle ctx c product shown p) := by
  have hsettles : Settles ctx c product shown p (settle ctx c product shown p) :=
    settle_settles product shown p
  generalize settle ctx c product shown p = s at hsettles
  induction hsettles with
  | snapshot hp =>
    refine ownedStep_finish (owned_applySnapshot ?_ _ _) _
    simpa only [changeReports, hp, if_true] using h.reports
  | line hp hl _ =>
    exact ownedStep_finish (hc.settleOn (hl ▸ owned_settledLine hs hp h)) _
  | unnamed hp hl _ =>
    exact (reload_continues _).owned (hc.settleOn (hl ▸ owned_settledLine hs hp h))
  | after entries _ ih => exact ih.after entries

theorem foldNext_owned (hc : Owned own c) (hs : OwnedChange own product shown)
    {rest : List Reference} (hrest : ∀ id ∈ rest, own product id)
    (h : rest = [] → AccountedChange own product shown p) :
    OwnedStep own (foldNext ctx c product shown p rest) := by
  cases rest with
  | nil =>
    refine settle_owned ⟨hc.lines, hc.confirmed, fun x hx => ?_⟩ hs (h rfl)
    exact hc.folded x (List.mem_filter.mp hx).1
  | cons id rest =>
    obtain ⟨hid, hrest⟩ := List.forall_mem_cons.mp hrest
    exact (ownedStep_call hc (.fold hs hid hrest)).after _

theorem Keeps.accountedChange (ha : Keeps own a) (h : Accounted own c (.reply a p))
    (hs : a.point.settling? c = some (product, shown)) : AccountedChange own product shown p := by
  have takes : ∀ id, Takes product shown p id → own product id := fun id ht =>
    h.adopts product id (.mk hs ht)
  cases ha with
  | load next => cases hs
  | add | put | drop | fold => exact ⟨h.reports, takes⟩

/-- A step from a reply keeps to an account with which the reply agrees. -/
theorem resume_owned (hc : Owned own c) (ha : Keeps own a) {reply : Reply}
    (h : ∀ p, reply = .value p → Accounted own c (.reply a p)) :
    OwnedStep own (resume ctx c a.point reply) := by
  have same : ∀ pending error, Owned own { c with pending, error } := fun _ _ =>
    ⟨hc.lines, hc.confirmed, hc.folded⟩
  obtain ⟨call, point⟩ := a
  cases reply with
  | fault fault =>
    cases point with
    | loading next => cases next <;> exact ⟨same _ _, fun _ ha => nomatch ha⟩
    | sending | folding => exact ⟨same _ _, fun _ ha => nomatch ha⟩
  | failure f =>
    cases point with
    | loading next => exact ((proceed_proceeds next).continues.owned (same _ _)).after _
    | sending product shown folding => exact revert_owned hc product folding f
    | folding product shown rest => exact revert_owned hc product true f
  | value p =>
    have hp := h p rfl
    cases point with
    | loading next =>
      cases ha with
      | load =>
        have hloaded := owned_applySnapshot hp.reports ctx.catalog c
        refine ((proceed_proceeds next).continues.owned ?_).after _
        exact ⟨hloaded.lines, hloaded.confirmed, hloaded.folded⟩
    | sending product shown folding =>
      have hs : OwnedChange own product shown := ha.ownedChange rfl
      cases folding with
      | false => exact settle_owned hc hs (ha.accountedChange hp rfl)
      | true =>
        refine foldNext_owned hc hs hc.of_foldedIds fun hnil => ha.accountedChange hp ?_
        simp [Point.settling?, hnil]
    | folding product shown rest =>
      cases ha with
      | fold hs hown hrest =>
        refine foldNext_owned hc hs hrest fun hnil => ?_
        subst hnil
        exact (Keeps.fold hs hown hrest).accountedChange hp rfl

/-! ## Traffic -/

namespace Traffic

/-- What the cart is told at an event. -/
def told? (t : Traffic) : Event → Option Told
  | .reply place _ (.value p) => t.underway.awaited[place]?.map (.reply · p)
  | .applySnapshot p => some (.snapshot p)
  | _ => none

protected structure Owned (own : Account) (t : Traffic) : Prop where
  cart : Cart.Owned own t.cart
  awaited : ∀ a ∈ t.underway.awaited, Keeps own a

variable {t : Traffic}

theorem owned_start : Traffic.Owned own start where
  cart := .reset .empty
  awaited _ ha := nomatch ha

theorem Owned.mono (h : ∀ product id, own product id → own' product id) (ht : t.Owned own) :
    t.Owned own' := ⟨ht.cart.mono h, fun a ha => (ht.awaited a ha).mono h⟩

theorem Owned.step (h : t.Owned own) (hs : OwnedStep own s) : (t.step s).Owned own := by
  refine ⟨hs.cart, fun a ha => ?_⟩
  rw [awaited_step] at ha
  rcases List.mem_append.mp ha with ha | ha
  · exact h.awaited a ha
  · exact hs.call a (Option.mem_toList.mp ha)

theorem Owned.handle (h : t.Owned own) {e : Event}
    (he : ∀ x ∈ t.told? e, Accounted own t.cart x) (catalog : Catalog) :
    (t.handle catalog e).Owned own := by
  cases e with
  | begin authenticated request => exact h.step (begin_owned h.cart request)
  | applySnapshot p => exact ⟨owned_applySnapshot (he _ rfl).reports catalog t.cart, h.awaited⟩
  | reset => exact ⟨.reset t.cart, h.awaited⟩
  | reply place authenticated reply =>
    simp only [Traffic.handle]
    split
    · next a ha =>
      have mem := Underway.mem_awaited_take ha
      have htake : (t.take place).Owned own :=
        ⟨h.cart, fun b hb => h.awaited b ((mem b).mpr (.inr hb))⟩
      refine htake.step (resume_owned h.cart (h.awaited a ((mem a).mpr (.inl rfl))) ?_)
      rintro p rfl
      exact he _ (by simp [told?, ha])
    · exact h

end Traffic

end Shopfront.Cart
