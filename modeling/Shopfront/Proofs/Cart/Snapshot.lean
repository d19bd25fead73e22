import Shopfront.Cart.Operation
import Shopfront.Proofs.Cart.Row

/-! Replies that carry the whole cart. A reply is taken for one if any of the keys holds a list, and read
from the first key that holds a list or null. Main statement: what is read is what the first list
lists, exactly if no null stands before that list or it lists nothing (`snapshot_read_iff`); else the
cart is emptied (`listed_line_lost`). -/

namespace Shopfront

/-- A payload as JSON has it: without tuples, and with texts for keys. -/
inductive Payload.IsJson : Payload → Prop
  | null : IsJson .null
  | bool (b) : IsJson (.bool b)
  | int (n) : IsJson (.int n)
  | float (x) : IsJson (.float x)
  | text (s) : IsJson (.text s)
  | list {items} : (∀ p ∈ items, IsJson p) → IsJson (.list items)
  | object {fields} : (∀ f ∈ fields, IsJson f.2) → IsJson (.object fields)

namespace Cart

def listUnder? (fields : Fields) (key : String) : Option (List Payload) :=
  match List.lookup key fields with
  | some (.list items) => some items
  | _ => none

/-- The list that a reply is, or carries under the first key that holds one. -/
def listed? : Payload → Option (List Payload)
  | .list items => some items
  | .object fields => Envelope.cart.keys.findSome? (listUnder? fields)
  | _ => none

/-- One of the keys holds null, and none before it holds a list. -/
def NullFirst (fields : Fields) (keys : List String) : Prop :=
  ∃ before key after, keys = before ++ key :: after ∧ List.lookup key fields = some .null ∧
    ∀ k ∈ before, listUnder? fields k = none

/-- Null stands before what the reply lists. -/
def Hidden : Payload → Prop
  | .object fields => NullFirst fields Envelope.cart.keys
  | _ => False

theorem holdsList_eq (fields : Fields) (key : String) :
    holdsList fields key = (listUnder? fields key).isSome := by
  unfold holdsList listUnder?
  cases List.lookup key fields with
  | none => rfl
  | some p => cases p <;> rfl

/-- A reply is taken for the whole cart exactly if it lists something. -/
theorem isSnapshot_eq (p : Payload) : isSnapshot p = (listed? p).isSome := by
  cases p with
  | object fields =>
    rw [isSnapshot, listed?, Bool.eq_iff_iff, List.any_eq_true, List.findSome?_isSome_iff]
    simp only [holdsList_eq]
  | null | bool b | int n | float x | text s | list items | tuple items | table rows => rfl

variable {fields : Fields} {key : String} {keys : List String}

theorem nullFirst_cons_iff :
    NullFirst fields (key :: keys) ↔ List.lookup key fields = some .null ∨
      listUnder? fields key = none ∧ NullFirst fields keys := by
  constructor
  · rintro ⟨_ | ⟨first, before⟩, null, after, hkeys, hnull, hbefore⟩
    · obtain ⟨rfl, _⟩ := List.cons.inj hkeys
      exact .inl hnull
    · obtain ⟨rfl, rfl⟩ := List.cons.inj hkeys
      obtain ⟨hfirst, hbefore⟩ := List.forall_mem_cons.mp hbefore
      exact .inr ⟨hfirst, before, null, after, rfl, hnull, hbefore⟩
  · rintro (hnull | ⟨hfirst, before, null, after, hkeys, hnull, hbefore⟩)
    · exact ⟨[], key, keys, rfl, hnull, fun _ h => nomatch h⟩
    · refine ⟨key :: before, null, after, congrArg (key :: ·) hkeys, hnull, ?_⟩
      exact List.forall_mem_cons.mpr ⟨hfirst, hbefore⟩

theorem lookup_of_listUnder? {items : List Payload} (h : listUnder? fields key = some items) :
    List.lookup key fields = some (.list items) := by
  unfold listUnder? at h
  split at h
  · next hkey => rw [hkey, Option.some.inj h]
  · cases h

theorem search_of_passed (hlist : listUnder? fields key = none)
    (htuple : ∀ items, List.lookup key fields ≠ some (.tuple items))
    (hnull : List.lookup key fields ≠ some .null) :
    Envelope.search fields (key :: keys) = Envelope.search fields keys := by
  rw [Envelope.search]
  split
  · next hkey => simp [listUnder?, hkey] at hlist
  · next hkey => exact absurd hkey (htuple _)
  · next hkey => exact absurd hkey hnull
  · rfl

/-- The search for the entries stops at the first list, or at null if that stands before. -/
theorem search_eq (htuple : ∀ key items, List.lookup key fields ≠ some (.tuple items))
    {entries : List Payload} (h : keys.findSome? (listUnder? fields) = some entries) :
    (NullFirst fields keys → Envelope.search fields keys = some []) ∧
      (¬NullFirst fields keys → Envelope.search fields keys = some entries) := by
  induction keys with
  | nil => cases h
  | cons key keys ih =>
    rw [nullFirst_cons_iff]
    rw [List.findSome?_cons] at h
    cases hlist : listUnder? fields key with
    | some items =>
      have hkey := lookup_of_listUnder? hlist
      rw [hlist] at h
      cases h
      simp [Envelope.search, hkey]
    | none =>
      rw [hlist] at h
      by_cases hnull : List.lookup key fields = some .null
      · simp [Envelope.search, hnull]
      · rw [search_of_passed hlist (htuple key) hnull]
        simpa [hnull] using ih h

theorem entries_of_listed {p : Payload} (hjson : p.IsJson) {entries : List Payload}
    (h : listed? p = some entries) :
    (Hidden p → Envelope.cart.entries p = []) ∧
      (¬Hidden p → Envelope.cart.entries p = entries) := by
  cases hjson with
  | list _ =>
    cases h
    exact ⟨False.elim, fun _ => rfl⟩
  | @object fields hfields =>
    have htuple : ∀ key items, List.lookup key fields ≠ some (.tuple items) := by
      intro key items hkey
      obtain ⟨_, _, rfl, _⟩ := List.lookup_eq_some_iff.mp hkey
      cases hfields _ (List.mem_append_right _ List.mem_cons_self)
    have hsearch : Envelope.cart.entries (.object fields) =
        (Envelope.search fields Envelope.cart.keys).getD [] := by
      cases fields <;> rfl
    obtain ⟨hhidden, hread⟩ := search_eq htuple h
    rw [hsearch]
    exact ⟨fun hnull => by rw [hhidden hnull]; rfl, fun hnull => by rw [hread hnull]; rfl⟩
  | null | bool b | int n | float x | text s => cases h

/-- **When a reply is read as it is recognized.** A JSON reply that is taken for the whole cart lists
something, and what is read from it is what its first list lists exactly if no null stands before that
list, or it lists no line. A change that is settled on it leaves the cart empty exactly if null stands
before the list, or it lists nothing to be kept. -/
theorem snapshot_read_iff {p : Payload} (hjson : p.IsJson) (h : isSnapshot p = true)
    (ctx : Context) (c : Cart) (product : Int) (shown : Option Line) :
    ∃ entries, listed? p = some entries ∧
      (Report.listOf p = entries.filterMap Report.ofPayload? ↔
        ¬Hidden p ∨ entries.filterMap Report.ofPayload? = []) ∧
      ((settle ctx c product shown p).state.lines = [] ↔
        Hidden p ∨ ∀ r ∈ entries.filterMap Report.ofPayload?, r.quantity < 1) := by
  have hlines : (settle ctx c product shown p).state.lines =
      (merge ctx.catalog c.lines (Report.listOf p)).lines := by
    rw [settle, if_pos h]
    rfl
  rw [isSnapshot_eq] at h
  obtain ⟨entries, hentries⟩ := Option.isSome_iff_exists.mp h
  obtain ⟨hhidden, hread⟩ := entries_of_listed hjson hentries
  rw [hlines, merge_eq_nil_iff, Report.listOf]
  refine ⟨entries, hentries, ?_⟩
  by_cases hnull : Hidden p
  · simp [hhidden hnull, hnull, eq_comm]
  · simp [hread hnull, hnull]

/-- A number under the first key and null behind the list do no harm. -/
theorem snapshot_read_behind_number :
    let entry : Payload := .object [("id", .int 1), ("quantity", .int 2), ("sneaker_id", .int 7)]
    let p : Payload := .object [("cart", .list [entry]), ("data", .null), ("items", .int 5)]
    p.IsJson ∧ isSnapshot p = true ∧ Report.listOf p = [⟨some (.number 1), 7, 2, none⟩] := by
  intro entry p
  have hentry : entry.IsJson := .object <| by
    simp only [List.forall_mem_cons]
    exact ⟨.int 1, .int 2, .int 7, fun _ h => nomatch h⟩
  have hjson : p.IsJson := .object <| by
    simp only [List.forall_mem_cons]
    refine ⟨.list ?_, .null, .int 5, fun _ h => nomatch h⟩
    simpa using hentry
  have hshown : ¬Hidden p := by
    show ¬NullFirst _ ["items", "cart", "data"]
    rw [nullFirst_cons_iff, nullFirst_cons_iff]
    -- the number and the list are not null, and what stands behind the list does not matter
    rintro (hnull | ⟨_, hnull | ⟨hlist, _⟩⟩)
    · cases hnull
    · cases hnull
    · cases hlist
  obtain ⟨entries, hlisted, hread, _⟩ :=
    snapshot_read_iff hjson rfl ⟨true, .empty⟩ .empty 7 none
  cases hlisted
  exact ⟨hjson, rfl, hread.mpr (.inl hshown)⟩

/-- Null under the first key hides the line that is listed under the second. -/
theorem listed_line_lost :
    let entry : Payload := .object [("id", .int 1), ("quantity", .int 2), ("sneaker_id", .int 7)]
    let p : Payload := .object [("cart", .list [entry]), ("items", .null)]
    isSnapshot p = true ∧ listed? p = some [entry] ∧
      Report.ofPayload? entry = some ⟨some (.number 1), 7, 2, none⟩ ∧ Report.listOf p = [] :=
  ⟨rfl, rfl, rfl, rfl⟩

end Cart

end Shopfront
