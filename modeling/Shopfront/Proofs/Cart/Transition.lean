import Shopfront.Proofs.Cart.Lines
import Shopfront.Proofs.Cart.Traffic

/-! What one step of a cart operation can do. A step takes a reply in and then goes on to its end, to
a change that it shows and sends, or to loading the cart. Main statements: `begin_leads` and
`resume_resumes` list the cases, so that facts on steps need no look at the operations. -/

namespace Shopfront.Cart

/-- A change that can be shown and sent: the product, what is shown in the place of its line, and the
call. -/
inductive Change (ctx : Context) (c : Cart) : Int → Option Line → Call → Prop
  | add {product} : lineOf? product c.lines = none →
      Change ctx c product
        (some ⟨none, product, 1, priceFor ctx.catalog c.lines product none⟩) (.addToCart product 1)
  | addAgain {product line} : lineOf? product c.lines = some line → line.id = none →
      Change ctx c product (some { line with quantity := line.quantity + 1 })
        (.addToCart product 1)
  | raise {product line id} : lineOf? product c.lines = some line → line.id = some id →
      Change ctx c product (some { line with quantity := line.quantity + 1 })
        (.updateCartLine id.payload (line.quantity + 1))
  | lower {product line id} : lineOf? product c.lines = some line → line.id = some id →
      1 < line.quantity →
      Change ctx c product (some { line with quantity := line.quantity - 1 })
        (.updateCartLine id.payload (line.quantity - 1))
  | drop {product line id} : lineOf? product c.lines = some line → line.id = some id →
      Change ctx c product none (.removeCartLine id.payload)

/-- The message of a failed change, which an operation gives when the cart has been loaded again. -/
def Next.message? : Next → Option String
  | .fail message => some message
  | _ => none

/-- How an operation comes to its end or to its change from a cart that it need not load. An
operation with a message ends with it. -/
inductive Proceeds (ctx : Context) (c : Cart) : Option String → Step → Prop
  | finish (result) : Proceeds ctx c none (.finish c result)
  | fail (message) :
      Proceeds ctx c (some message)
        (.finish { release c with error := some message } (.done false))
  | send {product shown call} : Change ctx c product shown call →
      Proceeds ctx c none (send c product shown call)
  | after {message? s} (entries) : Proceeds ctx c message? s →
      Proceeds ctx c message? (s.after entries)

/-- How an operation goes on from a cart that it may have to load first. -/
inductive Leads (ctx : Context) (c : Cart) : Option String → Step → Prop
  | proceed {message? s} : Proceeds ctx c message? s → Leads ctx c message? s
  | load (next) : ctx.authenticated = true →
      Leads ctx c next.message?
        (.call { c with pending := c.pending + 1 } .getCart (.loading next))
  | empty {message? s} : ctx.authenticated = false → Proceeds ctx c.reset message? s →
      Leads ctx c message? s
  | after {message? s} (entries) : Leads ctx c message? s → Leads ctx c message? (s.after entries)

/-- How an operation goes on from a cart, whatever it is to say in the end. -/
inductive Continues (ctx : Context) : Cart → Step → Prop
  | finish (c result) : Continues ctx c (.finish c result)
  | fail (c message) :
      Continues ctx c (.finish { release c with error := some message } (.done false))
  | send {c product shown call} : Change ctx c product shown call →
      Continues ctx c (send c product shown call)
  | load (c next) : ctx.authenticated = true →
      Continues ctx c (.call { c with pending := c.pending + 1 } .getCart (.loading next))
  | empty {c s} : ctx.authenticated = false → Continues ctx c.reset s → Continues ctx c s
  | after {c s} (entries) : Continues ctx c s → Continues ctx c (s.after entries)

variable {ctx : Context} {c : Cart} {message? : Option String}

theorem Change.product_eq {product : Int} {shown : Option Line} {call : Call}
    (h : Change ctx c product shown call) : ∀ l ∈ shown, l.product = product := by
  intro l hl
  cases h with
  | add _ => cases hl; rfl
  | addAgain hline _ | raise hline _ | lower hline _ _ =>
    cases hl
    have hp := product_of_lineOf? hline
    exact hp
  | drop _ _ => cases hl

theorem Proceeds.continues {s : Step} (h : Proceeds ctx c message? s) : Continues ctx c s := by
  induction h with
  | finish result => exact .finish c result
  | fail message => exact .fail c message
  | send hchange => exact .send hchange
  | after entries _ ih => exact .after entries ih

theorem Leads.continues {s : Step} (h : Leads ctx c message? s) : Continues ctx c s := by
  induction h with
  | proceed hproceeds => exact hproceeds.continues
  | load next hauth => exact .load c next hauth
  | empty hauth hproceeds => exact .empty hauth hproceeds.continues
  | after entries _ ih => exact .after entries ih

theorem removeKnown_proceeds {product : Int} {line : Line} {id : Reference}
    (hl : lineOf? product c.lines = some line) (hi : line.id = some id) :
    Proceeds ctx c none (removeKnown ctx c product id) := by
  unfold removeKnown
  split
  · exact .send (.drop hl hi)
  · exact .after _ (.finish _)

theorem decreaseKnown_proceeds {product : Int} {line : Line} {id : Reference}
    (hl : lineOf? product c.lines = some line) (hi : line.id = some id) :
    Proceeds ctx c none (decreaseKnown ctx c product line id) := by
  unfold decreaseKnown
  split
  · exact removeKnown_proceeds hl hi
  · next hq => exact .send (.lower hl hi (Int.not_le.mp hq))

theorem proceed_proceeds (next : Next) : Proceeds ctx c next.message? (proceed ctx c next) := by
  cases next with
  | nothing => exact .finish _
  | succeed => exact .finish _
  | fail message => exact .fail _
  | decrease product =>
    simp only [proceed]
    split
    · next line hl =>
      split
      · next id hi => exact decreaseKnown_proceeds hl hi
      · exact .finish _
    · exact .finish _
  | remove product =>
    simp only [proceed]
    split
    · next id h =>
      obtain ⟨line, hl, hi⟩ := Option.bind_eq_some_iff.mp h
      exact .send (.drop hl hi)
    · exact .finish _

theorem reload_leads (next : Next) : Leads ctx c next.message? (reload ctx c next) := by
  unfold reload
  split
  · next h => exact .load _ h
  · next h => exact .empty (Bool.eq_false_iff.mpr h) (proceed_proceeds next)

theorem reload_continues (next : Next) : Continues ctx c (reload ctx c next) :=
  (reload_leads next).continues

theorem increase_proceeds (product : Int) : Proceeds ctx c none (increase ctx c product) := by
  unfold increase
  split
  · next hl => exact .after _ (.send (.add hl))
  · next line hl =>
    split
    · next hi => exact .send (.addAgain hl hi)
    · next id hi => exact .send (.raise hl hi)

theorem remove_leads (product : Int) : Leads ctx c none (remove ctx c product) := by
  unfold remove
  split
  · exact .proceed (.finish _)
  · next line hl =>
    split
    · next id hi => exact .proceed (.send (.drop hl hi))
    · exact reload_leads (.remove product)

theorem decrease_leads (product : Int) : Leads ctx c none (decrease ctx c product) := by
  unfold decrease
  split
  · exact .proceed (.finish _)
  · next line hl =>
    split
    · exact remove_leads product
    · split
      · next id hi => exact .proceed (decreaseKnown_proceeds hl hi)
      · exact reload_leads (.decrease product)

theorem gated_leads {run : Int → Step} (h : ∀ product, Leads ctx c none (run product))
    (action : String) (product : Payload) : Leads ctx c none (gated ctx c action product run) := by
  unfold gated
  split
  · exact h _
  · exact .after _ (.proceed (.finish _))

theorem begin_leads (request : Request) : Leads ctx c none (begin ctx c request) := by
  cases request with
  | refresh => exact reload_leads .nothing
  | increase product => exact gated_leads (fun id => .proceed (increase_proceeds id)) _ _
  | decrease product => exact gated_leads decrease_leads _ _
  | remove product => exact gated_leads remove_leads _ _

theorem begin_continues (request : Request) : Continues ctx c (begin ctx c request) :=
  (begin_leads request).continues

/-! ## Replies -/

/-- The product that an operation changes while it waits, and what it shows in the place of its
line. -/
def Point.change? : Point → Option (Int × Option Line)
  | .loading _ => none
  | .sending product shown _ => some (product, shown)
  | .folding product shown _ => some (product, shown)

/-- The change that the next reply settles, unless further lines are to be deleted first. -/
def Point.settling? (c : Cart) : Point → Option (Int × Option Line)
  | .loading _ => none
  | .sending product shown fold =>
    if fold && !(foldedIds product c.folded).isEmpty then none else some (product, shown)
  | .folding product shown rest => if rest.isEmpty then some (product, shown) else none

theorem settling_cases {point : Point} {product : Int} {shown : Option Line}
    (h : point.settling? c = some (product, shown)) :
    (∃ folding, point = .sending product shown folding ∧
      (folding = true → foldedIds product c.folded = [])) ∨ point = .folding product shown [] := by
  cases point with
  | loading next => cases h
  | sending q l folding =>
    simp only [Point.settling?] at h
    split at h
    · cases h
    · next hnot =>
      cases h
      exact .inl ⟨folding, rfl, by simpa using hnot⟩
  | folding q l rest =>
    cases rest with
    | nil =>
      cases h
      exact .inr rfl
    | cons _ _ => cases h

/-- A cart in which a change has been settled on a line. -/
def settleOn (c : Cart) (product : Int) (line : Option Line) : Cart :=
  { release c with
    error := none
    lines := withLine product line c.lines
    confirmed := withLine product line c.confirmed }

/-- How a change is settled on a reply. A line that stays without an id makes the cart load again. -/
inductive Settles (ctx : Context) (c : Cart) (product : Int) (shown : Option Line)
    (reply : Payload) : Step → Prop
  | snapshot : isSnapshot reply = true →
      Settles ctx c product shown reply
        (.finish (applySnapshot ctx.catalog reply { release c with error := none }) (.done true))
  | line {line} : isSnapshot reply = false → settledLine ctx c product shown reply = line →
      (∀ l ∈ line, l.id ≠ none) →
      Settles ctx c product shown reply (.finish (settleOn c product line) (.done true))
  | unnamed {l} : isSnapshot reply = false → settledLine ctx c product shown reply = some l →
      l.id = none →
      Settles ctx c product shown reply (reload ctx (settleOn c product (some l)) .succeed)
  | after {s} (entries) : Settles ctx c product shown reply s →
      Settles ctx c product shown reply (s.after entries)

/-- A change is settled on the line that the reply reports, or on the one that it shows. -/
theorem mem_settledLine {product : Int} {shown : Option Line} {reply : Payload} {l : Line}
    (h : l ∈ settledLine ctx c product shown reply) :
    (∃ r, Report.ofPayload? reply = some r ∧ 1 ≤ r.quantity ∧
      l = ⟨r.id.or (shown.bind (·.id)), product, r.quantity,
        priceFor ctx.catalog c.lines product r.price⟩) ∨
      ∃ line ∈ shown, l = { line with id := line.id.or (acknowledgedId? reply) } := by
  have acknowledged : l ∈ acknowledge reply shown →
      ∃ line ∈ shown, l = { line with id := line.id.or (acknowledgedId? reply) } := by
    intro hl
    obtain ⟨line, hline, he⟩ := Option.map_eq_some_iff.mp hl
    exact ⟨line, hline, he.symm⟩
  unfold settledLine at h
  split at h
  · next r hr =>
    split at h
    · next hp =>
      unfold lineFromReport at h
      split at h
      · cases h
      · next hq =>
        cases h
        rw [hp]
        exact .inl ⟨r, hr, Int.not_lt.mp hq, rfl⟩
    · exact .inr (acknowledged h)
  · exact .inr (acknowledged h)

theorem product_eq_settledLine {product : Int} {shown : Option Line} {reply : Payload}
    (h : ∀ l ∈ shown, l.product = product) :
    ∀ l ∈ settledLine ctx c product shown reply, l.product = product := by
  intro l hl
  rcases mem_settledLine hl with ⟨r, _, _, rfl⟩ | ⟨line, hline, rfl⟩
  · rfl
  · exact h line hline

theorem settle_of_not_snapshot {product : Int} {shown line : Option Line} {reply : Payload}
    (h : isSnapshot reply = false) (hl : settledLine ctx c product shown reply = line) :
    settle ctx c product shown reply =
      (if line.isSome && (line.bind (·.id)).isNone then
        reload ctx (settleOn c product line) .succeed
      else .finish (settleOn c product line) (.done true)).after
        (settledComplaint ctx c product reply) := by
  subst hl
  unfold settle
  rw [if_neg (Bool.eq_false_iff.mp h)]
  rfl

theorem settle_settles (product : Int) (shown : Option Line) (reply : Payload) :
    Settles ctx c product shown reply (settle ctx c product shown reply) := by
  cases h : isSnapshot reply with
  | true =>
    unfold settle
    rw [if_pos h]
    exact .after _ (.snapshot h)
  | false =>
    cases hl : settledLine ctx c product shown reply with
    | none =>
      rw [settle_of_not_snapshot h hl]
      exact .after _ (.line h hl fun _ hn => nomatch hn)
    | some l =>
      rw [settle_of_not_snapshot h hl]
      cases hid : l.id with
      | none =>
        rw [if_pos (by simp [hid])]
        exact .after _ (.unnamed h hl hid)
      | some id =>
        rw [if_neg (by simp [hid])]
        refine .after _ (.line h hl fun _ hs => ?_)
        cases hs
        rw [hid]
        exact Option.some_ne_none id

/-- How an operation goes on when a reply comes. -/
inductive Resumes (ctx : Context) (c : Cart) : Point → Reply → Step → Prop
  | loaded {next p s} : Continues ctx (loaded ctx c p) s →
      Resumes ctx c (.loading next) (.value p) s
  | notLoaded {next f s} (message : String) :
      Continues ctx (release { c with error := some message }) s →
      Resumes ctx c (.loading next) (.failure f) s
  | fold {point product shown} (p id rest) : point.change? = some (product, shown) →
      Resumes ctx c point (.value p)
        (.call c (.removeCartLine id) (.folding product shown rest))
  | settle {point product shown p s} : point.change? = some (product, shown) →
      Settles ctx c product shown p s → Resumes ctx c point (.value p) s
  | settleFolded {point product shown p s} : point.change? = some (product, shown) →
      Settles ctx { c with folded := c.folded.filter (·.1 != product) } product shown p s →
      Resumes ctx c point (.value p) s
  | revert {point change f s} : point.change? = some change →
      Continues ctx { c with lines := c.confirmed } s → Resumes ctx c point (.failure f) s
  | stop {point fault} (pending : Nat) :
      Resumes ctx c point (.fault fault) (.stop { c with pending } fault)
  | after {point reply s} (entries) : Resumes ctx c point reply s →
      Resumes ctx c point reply (s.after entries)

theorem foldNext_resumes {point : Point} {product : Int} {shown : Option Line}
    (h : point.change? = some (product, shown)) (p : Payload) (rest : List Reference) :
    Resumes ctx c point (.value p) (foldNext ctx c product shown p rest) := by
  cases rest with
  | nil => exact .settleFolded h (settle_settles _ _ _)
  | cons id rest => exact .after _ (.fold _ _ _ h)

/-- A failed change gives its message in the end, once the cart has been loaded if need be. -/
theorem revert_leads (product : Int) (folding : Bool) (f : Failure) :
    Leads ctx { c with lines := c.confirmed } (some (f.userMessage updateFailed))
      (revert ctx c product folding f) := by
  unfold revert
  refine .after _ ?_
  split
  · exact reload_leads (.fail (f.userMessage updateFailed))
  · exact .proceed (proceed_proceeds (.fail (f.userMessage updateFailed)))

theorem revert_continues (product : Int) (folding : Bool) (f : Failure) :
    Continues ctx { c with lines := c.confirmed } (revert ctx c product folding f) :=
  (revert_leads product folding f).continues

/-- Every step from a reply is one of the listed. -/
theorem resume_resumes (point : Point) (reply : Reply) :
    Resumes ctx c point reply (resume ctx c point reply) := by
  cases point with
  | loading next =>
    cases reply with
    | value p => exact .after _ (.loaded (proceed_proceeds next).continues)
    | failure f => exact .after _ (.notLoaded _ (proceed_proceeds next).continues)
    | fault fault => cases next <;> exact .stop _
  | sending product shown folding =>
    cases reply with
    | value p =>
      cases folding with
      | false => exact .settle rfl (settle_settles _ _ _)
      | true => exact foldNext_resumes rfl _ _
    | failure f => exact .revert rfl (revert_continues _ _ _)
    | fault fault => exact .stop _
  | folding product shown rest =>
    cases reply with
    | value p => exact foldNext_resumes rfl _ _
    | failure f => exact .revert rfl (revert_continues _ _ _)
    | fault fault => exact .stop _

end Shopfront.Cart
