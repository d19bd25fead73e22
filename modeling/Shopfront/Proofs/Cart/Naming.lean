import Shopfront.Backend.Web
import Shopfront.Proofs.Cart.Addressing
import Shopfront.Proofs.Cart.Stage
import Shopfront.Proofs.Number.Integer

/-! Under which name a line is addressed. An id comes as an integer or as a text, and a text that
reads as an integer is taken for the integer; what goes into the path of a later call is the text of
the integer then, and not the text that was reported. Main statement: every line in a path was
reported, and the path has the reported text exactly if this reads as no integer or is the integer's
own text; ids that read as the same integer are one (`named_as_reported_iff`). -/

namespace Shopfront

/-- The text of an id: of an integer, or a text that is not empty and has no blanks around it. -/
def Payload.idText? : Payload → Option String
  | .int n => some (Integer.text n)
  | .text s => if s ≠ "" ∧ Text.trim s = s then some s else none
  | _ => none

/-- The call names a line by an id that was reported so. -/
def Call.Names (call : Call) (raw : Payload) : Prop :=
  ∃ id, Reference.ofPayload? raw = some id ∧ call.line? = some id.payload

variable {raw raw' : Payload} {text text' : String} {id id' : Reference} {call : Call}

/-! ## Texts of ids -/

/-- What is kept of an id: the integer that it reads as, or its text. -/
theorem Payload.ofPayload?_of_idText? (h : raw.idText? = some text) :
    Reference.ofPayload? raw = some ((raw.id?.map Reference.number).getD (.text text)) := by
  cases raw with
  | int n => rfl
  | text s =>
    obtain ⟨⟨hne, _⟩, heq⟩ := Option.ite_none_right_eq_some.mp h
    obtain rfl : s = text := Option.some.inj heq
    have hblank : (Payload.text s).isBlank = false := beq_eq_false_iff_ne.mpr hne
    rw [Reference.ofPayload?, hblank, if_neg Bool.false_ne_true]
    cases (Payload.text s).id? with
    | none => exact congrArg (fun t => some (Reference.text t)) String.ofList_toList
    | some n => rfl
  | null | bool | float | list | tuple | object | table => cases h

/-- The text of an integer reads as this integer or, if it is too long, as none. -/
theorem Payload.id?_of_integer_text {n : Int} (h : raw.idText? = some (Integer.text n)) :
    raw.id? = none ∨ raw.id? = some n := by
  cases raw with
  | int m => exact .inr (congrArg some (Integer.text_inj (Option.some.inj h)))
  | text s =>
    obtain ⟨⟨_, htrim⟩, heq⟩ := Option.ite_none_right_eq_some.mp h
    obtain rfl : s = Integer.text n := Option.some.inj heq
    rw [Payload.id?, htrim, Integer.read?_text]
    split
    · exact .inr rfl
    · exact .inl rfl
  | null | bool | float | list | tuple | object | table => cases h

/-- An integer whose text is also that of an id that reads as none is too long to be read, so it
came as an integer. -/
theorem Payload.idText?_of_unread {n : Int} (h : raw.id? = some n) (ht : raw.idText? = some text)
    (h' : raw'.id? = none) (ht' : raw'.idText? = some (Integer.text n)) :
    text = Integer.text n := by
  have hlong : ¬Integer.digitCount n.natAbs ≤ Integer.digitLimit := by
    intro hle
    cases raw' with
    | int m => cases h'
    | text s =>
      obtain ⟨⟨_, htrim⟩, heq⟩ := Option.ite_none_right_eq_some.mp ht'
      obtain rfl : s = Integer.text n := Option.some.inj heq
      rw [Payload.id?, htrim, Integer.read?_text, if_pos hle] at h'
      cases h'
    | null | bool | float | list | tuple | object | table => cases ht'
  cases raw with
  | int m =>
    cases h
    exact (Option.some.inj ht).symm
  | text s => exact absurd (Integer.digitCount_of_read? h) hlong
  | null | bool | float | list | tuple | object | table => cases ht

/-! ## Paths -/

theorem Call.path_of_line? {line : Payload} (h : call.line? = some line) :
    (Web.target call).path = "/cart/" ++ line.plain := by
  cases call <;> cases h <;> rfl

/-- The text in the path: of the integer that the id reads as, or of the id itself. -/
theorem Call.Names.path (hn : call.Names raw) (h : raw.idText? = some text) :
    (Web.target call).path = "/cart/" ++ (raw.id?.map Integer.text).getD text := by
  obtain ⟨id, hid, hline⟩ := hn
  rw [Payload.ofPayload?_of_idText? h] at hid
  obtain rfl := Option.some.inj hid
  rw [call.path_of_line? hline, Reference.plain_payload]
  cases raw.id? <;> rfl

theorem Call.Names.path_iff (hn : call.Names raw) (h : raw.idText? = some text) :
    (Web.target call).path = "/cart/" ++ text ↔
      raw.id? = none ∨ ∃ n, text = Integer.text n := by
  rw [hn.path h, String.append_right_inj]
  constructor
  · intro he
    cases hid : raw.id? with
    | none => exact .inl rfl
    | some n =>
      rw [hid] at he
      exact .inr ⟨n, he.symm⟩
  · rintro (hid | ⟨n, rfl⟩)
    · rw [hid]
      rfl
    · rcases Payload.id?_of_integer_text h with hid | hid <;> rw [hid] <;> rfl

theorem Call.Names.path_eq_iff {call' : Call} (hn : call.Names raw) (hn' : call'.Names raw')
    (h : raw.idText? = some text) (h' : raw'.idText? = some text') (hne : text ≠ text') :
    (Web.target call).path = (Web.target call').path ↔
      ∃ n, raw.id? = some n ∧ raw'.id? = some n := by
  rw [hn.path h, hn'.path h', String.append_right_inj]
  cases hid : raw.id? with
  | none =>
    refine iff_of_false (fun he => ?_) (by simp)
    cases hid' : raw'.id? with
    | none =>
      rw [hid'] at he
      exact hne he
    | some n =>
      rw [hid'] at he
      cases he
      exact hne (Payload.idText?_of_unread hid' h' hid h).symm
  | some n =>
    cases hid' : raw'.id? with
    | none =>
      refine iff_of_false (fun he => ?_) (by simp)
      cases he
      exact hne (Payload.idText?_of_unread hid h hid' h')
    | some n' =>
      constructor
      · intro he
        exact ⟨n, rfl, congrArg some (Integer.text_inj he).symm⟩
      · rintro ⟨m, hm, hm'⟩
        cases hm
        cases hm'
        rfl

namespace Cart

open Underway (callOf?)

/-! ## Where ids are reported -/

/-- A payload and the entries in it, those that hold fields. -/
def objectsIn (p : Payload) : List Fields :=
  (p :: Envelope.cart.entries p).filterMap Payload.fields?

def Told.payload : Told → Payload
  | .reply _ p => p
  | .snapshot p => p

/-- The value stands under one of the keys for a line's id. -/
def Told.Reports (x : Told) (raw : Payload) : Prop :=
  ∃ fields ∈ objectsIn x.payload, ∃ key ∈ lineKeys, Fields.get fields key = raw

variable {x : Told} {p : Payload} {product : Int}

theorem firstPresent_eq (fields : Fields) (keys : List String) :
    Fields.firstPresent fields keys = .null ∨
      ∃ key ∈ keys, Fields.get fields key = Fields.firstPresent fields keys := by
  induction keys with
  | nil => exact .inl rfl
  | cons key keys ih =>
    rw [Fields.firstPresent]
    split
    · exact ih.imp_right fun ⟨k, hk, he⟩ => ⟨k, List.mem_cons_of_mem _ hk, he⟩
    · exact .inr ⟨key, List.mem_cons_self, rfl⟩

theorem reported_of_report {entry : Payload} {r : Report} (h : Report.ofPayload? entry = some r)
    (hid : r.id = some id) : ∃ fields, entry.fields? = some fields ∧ ∃ key ∈ lineKeys,
      Reference.ofPayload? (Fields.get fields key) = some id := by
  obtain ⟨fields, hfields, hr⟩ := Option.bind_eq_some_iff.mp h
  obtain ⟨product, _, rfl⟩ := Option.map_eq_some_iff.mp hr
  refine ⟨fields, hfields, ?_⟩
  have hid : Reference.ofPayload? (Fields.firstPresent fields lineKeys) = some id := hid
  rcases firstPresent_eq fields lineKeys with hnull | ⟨key, hkey, he⟩
  · rw [hnull] at hid
    cases hid
  · exact ⟨key, hkey, he ▸ hid⟩

theorem reported_of_acknowledgedId? (h : acknowledgedId? p = some id) :
    ∃ fields, p.fields? = some fields ∧ ∃ key ∈ lineKeys,
      Reference.ofPayload? (Fields.get fields key) = some id := by
  cases p with
  | object fields =>
    obtain ⟨key, hkey, he⟩ := List.exists_of_findSome?_eq_some h
    exact ⟨fields, rfl, key, hkey, he⟩
  | null | bool | int | float | text | list | tuple | table => cases h

theorem Told.report_mem {r : Report} (h : r ∈ x.reports) :
    ∃ entry ∈ x.payload :: Envelope.cart.entries x.payload, Report.ofPayload? entry = some r := by
  have listed : ∀ p, r ∈ Report.listOf p →
      ∃ entry ∈ p :: Envelope.cart.entries p, Report.ofPayload? entry = some r := by
    intro p h
    obtain ⟨entry, hentry, he⟩ := List.mem_filterMap.mp h
    exact ⟨entry, List.mem_cons_of_mem _ hentry, he⟩
  have changed : ∀ p, r ∈ changeReports p →
      ∃ entry ∈ p :: Envelope.cart.entries p, Report.ofPayload? entry = some r := by
    intro p h
    unfold changeReports at h
    split at h
    · exact listed p h
    · exact ⟨p, List.mem_cons_self, Option.mem_toList.mp h⟩
  cases x with
  | snapshot p => exact listed p h
  | reply a p =>
    obtain ⟨call, point⟩ := a
    cases call with
    | getCart => exact listed p h
    | _ => exact changed p h

/-- An id that is offered for a product has been reported. -/
theorem Told.Offers.reported (h : x.Offers product id) :
    ∃ raw, x.Reports raw ∧ Reference.ofPayload? raw = some id := by
  suffices h : ∃ entry ∈ x.payload :: Envelope.cart.entries x.payload, ∃ fields,
      entry.fields? = some fields ∧ ∃ key ∈ lineKeys,
        Reference.ofPayload? (Fields.get fields key) = some id by
    obtain ⟨entry, hentry, fields, hfields, key, hkey, hid⟩ := h
    exact ⟨_, ⟨fields, List.mem_filterMap.mpr ⟨entry, hentry, hfields⟩, key, hkey, rfl⟩, hid⟩
  rcases h with h | h
  · cases h with
    | line hr hid =>
      obtain ⟨entry, hentry, he⟩ := Told.report_mem hr
      exact ⟨entry, hentry, reported_of_report he hid⟩
    | acknowledgement _ _ hid =>
      exact ⟨_, List.mem_cons_self, reported_of_acknowledgedId? hid⟩
  · cases h with
    | stranger _ _ _ hid | deletion ht =>
      refine ⟨_, List.mem_cons_self, reported_of_acknowledgedId? ?_⟩
      first | exact hid | exact ht.acknowledged

/-! ## The first line of a product -/

/-- The entry that reports the first line of a product. -/
def firstListed? (product : Int) (p : Payload) : Option Fields :=
  ((Envelope.cart.entries p).filterMap Payload.fields?).find? fun fields =>
    (Report.ofFields? fields).any fun r => 1 ≤ r.quantity ∧ r.product = product

theorem head?_ofProduct_listOf (product : Int) (p : Payload) :
    (Row.ofProduct product (reportedRows (Report.listOf p))).head? =
      ((firstListed? product p).bind Report.ofFields?).map Report.row := by
  have hlist : Report.listOf p =
      ((Envelope.cart.entries p).filterMap Payload.fields?).filterMap Report.ofFields? :=
    (List.filterMap_filterMap ..).symm
  rw [Row.ofProduct, List.head?_filter, reportedRows, List.find?_map, List.find?_filter, hlist,
    List.find?_filterMap]
  simp only [Function.comp_apply, decide_eq_true_eq, beq_iff_eq]
  rfl

/-- The product's line in a loaded cart has the id of the entry that reports its first line. -/
theorem lineOf?_loaded {fields : Fields} (h : firstListed? product p = some fields) (ctx : Context)
    (c : Cart) : ∃ line, lineOf? product (loaded ctx c p).lines = some line ∧
      line.id = Reference.ofPayload? (Fields.firstPresent fields lineKeys) := by
  -- what makes it the product's first entry is also that it can be read
  have hany : (Report.ofFields? fields).any fun r => 1 ≤ r.quantity ∧ r.product = product :=
    List.find?_some (p := fun fields => (Report.ofFields? fields).any _) h
  obtain ⟨r, hr⟩ := Option.isSome_iff_exists.mp (Option.isSome_of_any hany)
  obtain ⟨product', _, rfl⟩ := Option.map_eq_some_iff.mp hr
  have hhead := head?_ofProduct_listOf product p
  rw [h, Option.bind_some, hr] at hhead
  rcases (shows_loaded_payload ctx c p).lineOfRows? product with ⟨_, hnil⟩ | ⟨line, hline, hrow, _⟩
  · rw [hnil] at hhead
    cases hhead
  · refine ⟨line, hline, (congrArg Row.id hrow).trans ?_⟩
    rw [Row.combined, hhead]
    rfl

/-- A change of a product that is shown with an id is a call that names the id. -/
theorem callOf?_begin_change {ctx : Context} {c : Cart} {line : Line} {request : Request}
    (hauth : ctx.authenticated = true) (hline : lineOf? product c.lines = some line)
    (hid : line.id = some id) (hrequest : request.product? = some product) :
    ∃ a, callOf? (begin ctx c request).progress = some a ∧ a.call.line? = some id.payload := by
  have hremove : ∃ a, callOf? (remove ctx c product).progress = some a ∧
      a.call.line? = some id.payload := by
    simp only [remove, hline, hid]
    exact ⟨_, rfl, rfl⟩
  cases request with
  | refresh => cases hrequest
  | increase p =>
    have hp : p.id? = some product := hrequest
    simp only [begin, gated, gate, hauth, hp, if_true, increase, hline, hid]
    exact ⟨_, rfl, rfl⟩
  | remove p =>
    have hp : p.id? = some product := hrequest
    simp only [begin, gated, gate, hauth, hp, if_true]
    exact hremove
  | decrease p =>
    have hp : p.id? = some product := hrequest
    simp only [begin, gated, gate, hauth, hp, if_true, decrease, hline]
    by_cases hlast : line.quantity ≤ 1
    · rw [if_pos hlast]
      exact hremove
    · simp only [if_neg hlast, hid, decreaseKnown]
      exact ⟨_, rfl, rfl⟩

/-! ## Lines in paths -/

/-- **Under which names lines are addressed.** A call names no line but by an id that was reported,
however operations interleave; and in a cart that has been loaded a change of a product is a call
that names its first line. Of an id that is an integer or a text without blanks around it, the path
has the reported text exactly if this reads as no integer or is an integer's own text. And two
different texts come to one path exactly if they read as the same integer. -/
theorem named_as_reported_iff (catalog : Catalog) (events : List Traffic.Event) :
    (∀ a ∈ (Traffic.start.run catalog events).underway.awaited, a.call.line?.isSome →
      ∃ x ∈ Traffic.start.tellings catalog events, ∃ raw, x.Reports raw ∧ a.call.Names raw) ∧
    (∀ (ctx : Context) (c : Cart) (p : Payload) (product : Int) (fields : Fields)
      (request : Request), ctx.authenticated → firstListed? product p = some fields →
      request.product? = some product →
      ∀ id, Reference.ofPayload? (Fields.firstPresent fields lineKeys) = some id →
        ∃ a, callOf? (begin ctx (loaded ctx c p) request).progress = some a ∧
          a.call.Names (Fields.firstPresent fields lineKeys)) ∧
    (∀ (call : Call) (raw : Payload) (text : String), call.Names raw → raw.idText? = some text →
      ((Web.target call).path = "/cart/" ++ text ↔
        raw.id? = none ∨ ∃ n, text = Integer.text n)) ∧
    ∀ (call call' : Call) (raw raw' : Payload) (text text' : String), call.Names raw →
      call'.Names raw' → raw.idText? = some text → raw'.idText? = some text' → text ≠ text' →
      ((Web.target call).path = (Web.target call').path ↔
        ∃ n, raw.id? = some n ∧ raw'.id? = some n) := by
  refine ⟨?_, ?_, fun _ _ _ hn h => hn.path_iff h,
    fun _ _ _ _ _ _ hn hn' h h' hne => hn.path_eq_iff hn' h h' hne⟩
  · intro a ha hsome
    obtain ⟨line, hline⟩ := Option.isSome_iff_exists.mp hsome
    obtain ⟨product, shown, id, _, rfl, x, hx, hoffers⟩ :=
      (Traffic.owned_offers catalog events).addressed a ha line hline
    obtain ⟨raw, hreports, hid⟩ := hoffers.reported
    exact ⟨x, hx, raw, hreports, id, hid, hline⟩
  · intro ctx c p product fields request hauth hfirst hrequest id hid
    obtain ⟨line, hline, hid'⟩ := lineOf?_loaded hfirst ctx c
    obtain ⟨a, ha, hname⟩ := callOf?_begin_change hauth hline (hid'.trans hid) hrequest
    exact ⟨a, ha, id, hid, hname⟩

/-- A text that reads as no integer stands in the path as it was reported. -/
theorem text_id_named :
    let entry : Fields := [("id", .text "a-1"), ("quantity", .int 2), ("sneaker_id", .int 7)]
    let fresh := loaded ⟨true, .empty⟩ .empty (.list [.object entry])
    ∃ a, callOf? (begin ⟨true, .empty⟩ fresh (.increase (.int 7))).progress = some a ∧
      (Web.target a.call).path = "/cart/" ++ "a-1" := by
  intro entry fresh
  obtain ⟨_, hchange, hpath, _⟩ := named_as_reported_iff .empty []
  obtain ⟨a, ha, hn⟩ := hchange ⟨true, .empty⟩ .empty (.list [.object entry]) 7 entry
    (.increase (.int 7)) rfl rfl rfl (.text "a-1") (by decide +kernel)
  exact ⟨a, ha, (hpath a.call (.text "a-1") "a-1" hn (by decide +kernel)).mpr
    (.inl (by decide +kernel))⟩

/-- Leading zeros do not come back: the line is addressed by another text than was reported, and by
the same as a line whose id is another text. -/
theorem leading_zeros_lost :
    let entry : String → Int → Payload := fun id product =>
      .object [("id", .text id), ("quantity", .int 1), ("sneaker_id", .int product)]
    let fresh := loaded ⟨true, .empty⟩ .empty (.list [entry "007" 5, entry "7" 6])
    let path? : Int → Option String := fun product =>
      (callOf? (begin ⟨true, .empty⟩ fresh (.increase (.int product))).progress).map fun a =>
        (Web.target a.call).path
    path? 5 = some "/cart/7" ∧ path? 5 ≠ some ("/cart/" ++ "007") ∧ path? 5 = path? 6 := by
  decide +kernel

end Cart

end Shopfront
