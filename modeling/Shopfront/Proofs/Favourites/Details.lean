import Shopfront.Proofs.Favourites.Toggles
import Shopfront.Proofs.Joins

/-! The favourite ids and the products shown for them. A step takes ids in from a listing and products
in for the ids for which it was asked, and it asks for those of the ids that it leaves, or of the ids
that a caller gives. Main statements: products taken in are joined to their ids (`joined_joinIds`), no
step makes a favourite occur twice (`Begins.distinct`, `Sends.distinct`, `Resumes.distinct`), and the
ids that a step asks for are known (`wanted_begin`, `wanted_wake`, `wanted_resume`). -/

namespace Shopfront.Favourites

/-! ## Products of ids -/

/-- The products are those that a payload has for the ids, in the order of the ids, and of each id
the last one. -/
structure Joined (ids : List Int) (p : Payload) (products : List Product) : Prop where
  ids : products.map (·.id) = ids.filter fun id => (Product.listOf p).any (·.id == id)
  last : ∀ r ∈ products, LastOfItsId r (Product.listOf p)

theorem map_id_lastWith? (id : Int) (products : List Product) :
    (Product.lastWith? id products).map (·.id) =
      Option.guard (fun id => products.any (·.id == id)) id := by
  rw [Option.guard]
  cases h : Product.lastWith? id products with
  | none =>
    have hnone : ¬ products.any (·.id == id) = true := by
      simpa [Product.lastWith?] using h
    rw [if_neg hnone, Option.map_none]
  | some r =>
    have hid := List.find?_some h
    have hmem : r ∈ products := List.mem_reverse.mp (List.mem_of_find?_eq_some h)
    rw [if_pos (List.any_eq_true.mpr ⟨r, hmem, hid⟩), Option.map_some, beq_iff_eq.mp hid]

theorem joined_joinIds (ids : List Int) (p : Payload) :
    Joined ids p (Product.joinIds (ids.map some) (Product.listOf p)) := by
  have hjoin : Product.joinIds (ids.map some) (Product.listOf p) =
      ids.filterMap (Product.lastWith? · (Product.listOf p)) := List.filterMap_map ..
  rw [hjoin]
  refine ⟨?_, fun r hr => ?_⟩
  · rw [List.map_filterMap, ← List.filterMap_eq_filter]
    exact List.filterMap_congr fun id _ => map_id_lastWith? id _
  · obtain ⟨id, _, hlast⟩ := List.mem_filterMap.mp hr
    exact lastOfItsId_of_lastWith? hlast

theorem Joined.nodup {ids : List Int} {p : Payload} {products : List Product}
    (h : Joined ids p products) (hids : ids.Nodup) : (products.map (·.id)).Nodup := by
  rw [h.ids]
  exact hids.filter _

theorem contains_iff (f : Favourites) (v : Payload) :
    f.contains v = true ↔ ∃ id ∈ f.ids, v.id? = some id := by
  unfold contains
  cases hid : v.id? with
  | none => simp
  | some id => simp

/-! ## No favourite twice -/

/-- No favourite occurs twice, neither among the ids nor among the products. -/
structure Distinct (f : Favourites) : Prop where
  ids : f.ids.Nodup
  products : (f.products.map (·.id)).Nodup

/-- The ids whose products an operation at a point waits for. -/
def Point.wanted? : Point → Option (List Int)
  | .loadingDetails wanted _ => some wanted
  | _ => none

theorem Asks.eq_getProductsBatch_iff {call : Call} {point : Point} (h : Asks call point)
    (wanted : List Int) : call = .getProductsBatch wanted ↔ point.wanted? = some wanted := by
  cases h <;> simp [Point.wanted?]

theorem Asks.exists_loadingIds {point : Point} (h : Asks .getFavourites point) :
    ∃ next, point = .loadingIds next := by
  cases h with
  | ids next => exact ⟨next, rfl⟩

variable {authenticated : Bool} {f : Favourites} {s : Step}

theorem distinct_applyIds (h : f.Distinct) (p : Payload) : (f.applyIds p).Distinct :=
  ⟨(firstOccurrences_eraseDups _).nodup, h.products⟩

theorem distinct_applyDetails (h : f.Distinct) {wanted : List Int} (hwanted : wanted.Nodup)
    (p : Payload) : (f.applyDetails (wanted.map some) p).Distinct :=
  ⟨h.ids, (joined_joinIds wanted p).nodup hwanted⟩

theorem distinct_reset (f : Favourites) : f.reset.Distinct := ⟨List.nodup_nil, List.nodup_nil⟩

theorem Continues.distinct {toggle? : Option (Turn × Outcome)}
    (hs : Continues authenticated f toggle? s) (h : f.Distinct) : s.state.Distinct := by
  induction hs with
  | finish | leave | loadIds | loadDetails => exact ⟨h.ids, h.products⟩
  | clear _ _ ih => exact ih ⟨List.nodup_nil, List.nodup_nil⟩
  | noDetails _ ih => exact ih ⟨h.ids, List.nodup_nil⟩
  | after _ _ ih => exact ih h

theorem Sends.distinct {turn : Turn} (hs : Sends f turn s) (h : f.Distinct) :
    s.state.Distinct := by
  induction hs with
  | remove | add => exact ⟨h.ids, h.products⟩
  | after _ _ ih => exact ih

theorem Begins.distinct {request : Request} (hs : Begins authenticated f request s)
    (h : f.Distinct) : s.state.Distinct := by
  induction hs with
  | send _ _ _ hsends => exact hsends.distinct ⟨h.ids, h.products⟩
  | queue | refuse | stop => exact ⟨h.ids, h.products⟩
  | load _ hcont => exact hcont.distinct h
  | after _ _ ih => exact ih

theorem Distinct.received (h : f.Distinct) {point : Point}
    (hpoint : ∀ wanted ∈ point.wanted?, wanted.Nodup) (reply : Reply) :
    (received f point reply).Distinct := by
  cases point with
  | loadingIds next =>
    cases reply with
    | value p =>
      have hlisted := distinct_applyIds h p
      exact ⟨hlisted.ids, hlisted.products⟩
    | failure | fault => exact ⟨h.ids, h.products⟩
  | loadingDetails wanted next =>
    cases reply with
    | value p =>
      have hjoined := distinct_applyDetails h (hpoint wanted rfl) p
      exact ⟨hjoined.ids, hjoined.products⟩
    | failure => exact ⟨h.ids, List.nodup_nil⟩
    | fault => exact ⟨h.ids, h.products⟩
  | toggling => cases reply <;> exact ⟨h.ids, h.products⟩

theorem Resumes.distinct {point : Point} {reply : Reply}
    (hs : Resumes authenticated f point reply s)
    (h : (Favourites.received f point reply).Distinct) : s.state.Distinct := by
  induction hs with
  | goOn hcont => exact hcont.distinct h
  | fail | abandon | stop => exact ⟨h.ids, h.products⟩
  | after _ _ ih => exact ih

/-! ## The ids that a step asks for -/

/-- A step asks for the products of the ids that it leaves, if it asks for products. -/
def AsksOwn (s : Step) : Prop :=
  ∀ a ∈ s.progress.awaited?, ∀ wanted ∈ a.point.wanted?, wanted = s.state.ids

theorem asksOwn_of_none (h : s.progress.awaited? = none) : AsksOwn s := by
  intro a ha
  rw [h] at ha
  cases ha

theorem AsksOwn.after (h : AsksOwn s) (entries : Journal) : AsksOwn (s.after entries) := h

theorem afterDetails_asksOwn (f : Favourites) (next : AfterDetails) :
    AsksOwn (afterDetails f next) := by
  cases next <;> exact asksOwn_of_none rfl

theorem loadDetails_asksOwn (f : Favourites) (next : AfterDetails) :
    AsksOwn (loadDetails f f.ids next) := by
  unfold loadDetails
  split
  · exact afterDetails_asksOwn _ next
  · rintro a ⟨⟩ wanted ⟨⟩
    rfl

theorem afterIds_asksOwn (f : Favourites) (next : AfterIds) : AsksOwn (afterIds f next) := by
  cases next with
  | nothing => exact asksOwn_of_none rfl
  | details => exact loadDetails_asksOwn f .nothing
  | toggled turn before outcome =>
    simp only [afterIds]
    split
    · exact asksOwn_of_none rfl
    · exact loadDetails_asksOwn f (.toggled turn outcome)

theorem loadIds_asksOwn (authenticated : Bool) (f : Favourites) (next : AfterIds) :
    AsksOwn (loadIds authenticated f next) := by
  unfold loadIds
  split
  · rintro a ⟨⟩ wanted ⟨⟩
  · exact (afterIds_asksOwn _ next).after _

theorem Sends.asksOwn {turn : Turn} (hs : Sends f turn s) : AsksOwn s := by
  induction hs with
  | remove | add => rintro a ⟨⟩ wanted ⟨⟩
  | after entries _ ih => exact ih.after entries

theorem wanted_wake (f : Favourites) (turn : Turn) (ticket : Nat) :
    AsksOwn (wake f turn ticket) := (wake_sends turn ticket).asksOwn

theorem abandon_asksOwn (f : Favourites) (turn : Option Turn) (fault : Fault) :
    AsksOwn (abandon f turn fault) := by
  cases turn <;> exact asksOwn_of_none rfl

theorem wanted_resume (authenticated : Bool) (f : Favourites) (point : Point) (reply : Reply) :
    AsksOwn (resume authenticated f point reply) := by
  cases point with
  | loadingIds next =>
    cases reply with
    | value p => exact (afterIds_asksOwn _ next).after _
    | failure failure => exact (afterIds_asksOwn _ next).after _
    | fault fault => exact abandon_asksOwn _ _ fault
  | loadingDetails wanted next =>
    cases reply with
    | value p => exact (afterDetails_asksOwn _ next).after _
    | failure failure => exact (afterDetails_asksOwn _ next).after _
    | fault fault => exact abandon_asksOwn _ _ fault
  | toggling turn before outcome =>
    cases reply with
    | value p => exact loadIds_asksOwn authenticated _ _
    | failure failure => exact asksOwn_of_none rfl
    | fault fault => exact abandon_asksOwn _ _ fault

/-- The ids that a request names as those whose products it is for. -/
def Request.names? : Request → Option Payload
  | .refreshDetails names => names
  | _ => none

/-- The ids whose products a request asks for, where the favourites are the given ids: those that it
names, each at its first place, or else the favourites. -/
inductive Request.IsFor (favourites : List Int) (request : Request) : List Int → Prop
  | named {names entries wanted} : request.names? = some names → names.elements? = some entries →
      FirstOccurrences wanted (entries.filterMap Payload.id?) → IsFor favourites request wanted
  | own : request.names? = none → IsFor favourites request favourites

theorem Request.IsFor.nodup {favourites wanted : List Int} {request : Request}
    (h : request.IsFor favourites wanted) (hids : favourites.Nodup) : wanted.Nodup := by
  cases h with
  | named _ _ hfirst => exact hfirst.nodup
  | own _ => exact hids

theorem AsksOwn.isFor (h : AsksOwn s) {request : Request} (hrequest : request.names? = none) :
    ∀ a ∈ s.progress.awaited?, ∀ wanted ∈ a.point.wanted?, request.IsFor s.state.ids wanted := by
  intro a ha wanted hwanted
  rw [h a ha wanted hwanted]
  exact .own hrequest

theorem takeTurn_asksOwn (f : Favourites) (product : Int) : AsksOwn (takeTurn f product) := by
  simp only [takeTurn]
  split
  · exact (sendToggle_sends _).asksOwn
  · exact asksOwn_of_none rfl

theorem wanted_begin (authenticated : Bool) (f : Favourites) (request : Request) :
    ∀ a ∈ (begin authenticated f request).progress.awaited?, ∀ wanted ∈ a.point.wanted?,
      request.IsFor (begin authenticated f request).state.ids wanted := by
  cases request with
  | refreshIds => exact (loadIds_asksOwn authenticated f .nothing).isFor rfl
  | resync => exact (loadIds_asksOwn authenticated f .details).isFor rfl
  | refreshDetails names =>
    cases names with
    | none => exact (loadDetails_asksOwn f .nothing).isFor rfl
    | some names =>
      simp only [begin]
      split
      · next entries hentries =>
        unfold loadDetails
        split
        · rintro a ⟨⟩
        · rintro a ⟨⟩ wanted ⟨⟩
          exact .named rfl hentries (firstOccurrences_eraseDups _)
      · rintro a ⟨⟩
  | toggle product =>
    refine AsksOwn.isFor ?_ rfl
    simp only [begin, toggle]
    split
    · split
      · exact takeTurn_asksOwn f _
      · exact asksOwn_of_none rfl
    · exact asksOwn_of_none rfl

/-! ## Replies to a load -/

/-- The products shown when those of ids have come in are joined to these ids. -/
theorem joined_resume (authenticated : Bool) (f : Favourites) {point : Point} {wanted : List Int}
    (h : point.wanted? = some wanted) (p : Payload) :
    Joined wanted p (resume authenticated f point (.value p)).state.products := by
  cases point with
  | loadingIds | toggling => cases h
  | loadingDetails wanted' next =>
    cases h
    cases next <;> exact joined_joinIds wanted p

theorem ids_loadDetails (f : Favourites) (wanted : List Int) (next : AfterDetails) :
    (loadDetails f wanted next).state.ids = f.ids := by
  unfold loadDetails
  split
  · cases next <;> rfl
  · rfl

theorem products_loadDetails (f : Favourites) {wanted : List Int} (h : wanted ≠ [])
    (next : AfterDetails) : (loadDetails f wanted next).state.products = f.products := by
  rw [loadDetails, if_neg (by simpa using h)]
  rfl

theorem ids_afterIds (f : Favourites) (next : AfterIds) : (afterIds f next).state.ids = f.ids := by
  cases next with
  | nothing => rfl
  | details => exact ids_loadDetails f _ _
  | toggled turn before outcome =>
    simp only [afterIds]
    split
    · rfl
    · exact ids_loadDetails f _ _

theorem products_afterIds (f : Favourites) {next : AfterIds} (h : f.ids ≠ [] ∨ next = .nothing) :
    (afterIds f next).state.products = f.products := by
  cases next with
  | nothing => rfl
  | details =>
    exact products_loadDetails f (h.resolve_right (by simp)) _
  | toggled turn before outcome =>
    simp only [afterIds]
    split
    · rfl
    · exact products_loadDetails f (h.resolve_right (by simp)) _

end Shopfront.Favourites
