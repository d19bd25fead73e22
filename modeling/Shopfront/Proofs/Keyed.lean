import Shopfront.Keyed

/-! Lists of items with keys in which all items of one key give way to a single one or to none. Main
statements: what is found under each key afterwards (`filter_eq_settleBy`), that keys stay distinct
(`nodup_settleBy`), and that the change commutes with maps, with filters of other keys and with
changes of them (`settleBy_comm`). -/

namespace Shopfront

variable {α β κ κ' : Type} [DecidableEq κ] [DecidableEq κ']

/-- The items of a key replaced by one or none, in the place of the first of them or at the end. -/
def settleBy (key : α → κ) (k : κ) (item : Option α) : List α → List α
  | [] => item.toList
  | x :: xs =>
    if key x = k then item.toList ++ xs.filter fun y => key y != k
    else x :: settleBy key k item xs

/-- Induction on a list by its keys: from the list without the first item's key to the whole. -/
@[elab_as_elim]
theorem key_induction (key : α → κ) {P : List α → Prop} (nil : P [])
    (cons : ∀ x xs, P (xs.filter fun y => key y != key x) → P (x :: xs)) (xs : List α) : P xs :=
  match xs with
  | [] => nil
  | x :: xs => cons x xs (key_induction key nil cons _)
termination_by xs.length
decreasing_by exact Nat.lt_succ_of_le (List.length_filter_le _ _)

variable {key : α → κ} {k : κ} {item : Option α}

/-- Of items with distinct keys each is the one found under its key. -/
theorem find?_of_nodup {x : α} {xs : List α} (hd : (xs.map key).Nodup) (h : x ∈ xs) :
    xs.find? (key · == key x) = some x := by
  induction xs with
  | nil => cases h
  | cons y ys ih =>
    obtain ⟨hy, hys⟩ := List.nodup_cons.mp hd
    rcases List.mem_cons.mp h with rfl | h
    · exact List.find?_cons_of_pos (by simp)
    · have hne : key y ≠ key x := fun e => hy (e ▸ List.mem_map_of_mem h)
      rw [List.find?_cons_of_neg (by simpa using hne), ih hys h]

theorem filter_ne_eq_self {xs : List α} (h : ∀ x ∈ xs, key x ≠ k) :
    (xs.filter fun x => key x != k) = xs :=
  List.filter_eq_self.mpr fun x hx => bne_iff_ne.mpr (h x hx)

theorem settleBy_none (xs : List α) :
    settleBy key k none xs = xs.filter fun x => key x != k := by
  induction xs with
  | nil => rfl
  | cons x xs ih => by_cases hx : key x = k <;> simp [settleBy, hx, ih]

theorem settleBy_of_not_mem {xs : List α} (h : ∀ x ∈ xs, key x ≠ k) :
    settleBy key k item xs = xs ++ item.toList := by
  induction xs with
  | nil => rfl
  | cons x xs ih =>
    obtain ⟨hx, hxs⟩ := List.forall_mem_cons.mp h
    rw [settleBy, if_neg hx, ih hxs, List.cons_append]

theorem filter_filter_ne (k q : κ) (xs : List α) :
    (xs.filter fun x => key x != k).filter (key · == q) =
      if q = k then [] else xs.filter (key · == q) := by
  rw [List.filter_filter]
  split
  · next h => simp [h]
  · next h =>
    refine List.filter_congr fun x _ => ?_
    by_cases hx : key x = q
    · simp [hx, h]
    · simp [hx]

theorem filter_eq_settleBy (h : ∀ x ∈ item, key x = k) (q : κ) (xs : List α) :
    (settleBy key k item xs).filter (key · == q) =
      if q = k then item.toList else xs.filter (key · == q) := by
  have hitem : item.toList.filter (key · == q) = if q = k then item.toList else [] := by
    cases item with
    | none => simp
    | some x =>
      have hx := h x rfl
      by_cases hq : q = k
      · simp [hq, hx]
      · have hq' : ¬k = q := fun e => hq e.symm
        simp [hq, hx, hq']
  induction xs with
  | nil => exact hitem
  | cons x xs ih =>
    by_cases hx : key x = k
    · rw [settleBy, if_pos hx, List.filter_append, hitem, filter_filter_ne]
      by_cases hq : q = k
      · simp [hq]
      · have hq' : ¬k = q := fun e => hq e.symm
        simp [hq, hx, hq']
    · rw [settleBy, if_neg hx, List.filter_cons, List.filter_cons, ih]
      by_cases hq : q = k
      · have hf : (key x == k) = false := beq_eq_false_iff_ne.mpr hx
        simp [hq, hf]
      · simp [hq]

theorem find?_settleBy (h : ∀ x ∈ item, key x = k) (q : κ) (xs : List α) :
    (settleBy key k item xs).find? (key · == q) =
      if q = k then item else xs.find? (key · == q) := by
  rw [← List.head?_filter, filter_eq_settleBy h]
  split
  · exact Option.head?_toList
  · exact List.head?_filter

theorem mem_settleBy {x : α} {xs : List α} (h : x ∈ settleBy key k item xs) :
    item = some x ∨ x ∈ xs := by
  induction xs with
  | nil => exact .inl (Option.mem_toList.mp h)
  | cons y ys ih =>
    unfold settleBy at h
    split at h
    · rcases List.mem_append.mp h with h | h
      · exact .inl (Option.mem_toList.mp h)
      · exact .inr (List.mem_cons_of_mem _ (List.mem_filter.mp h).1)
    · rcases List.mem_cons.mp h with rfl | h
      · exact .inr List.mem_cons_self
      · exact (ih h).imp_right (List.mem_cons_of_mem _)

theorem mem_settleBy_self (x : α) (xs : List α) : x ∈ settleBy key k (some x) xs := by
  induction xs with
  | nil => exact List.mem_singleton_self x
  | cons y ys ih =>
    unfold settleBy
    split
    · exact List.mem_cons_self
    · exact List.mem_cons_of_mem _ ih

theorem nodup_settleBy (h : ∀ x ∈ item, key x = k) {xs : List α} (hd : (xs.map key).Nodup) :
    ((settleBy key k item xs).map key).Nodup := by
  induction xs with
  | nil => cases item <;> simp [settleBy]
  | cons x xs ih =>
    obtain ⟨hx, hxs⟩ := List.nodup_cons.mp hd
    unfold settleBy
    split
    · have hf := hxs.sublist (List.filter_sublist (p := fun y => key y != k).map key)
      cases item with
      | none => exact hf
      | some y =>
        refine List.nodup_cons.mpr ⟨fun hm => ?_, hf⟩
        obtain ⟨z, hz, he⟩ := List.mem_map.mp hm
        exact bne_iff_ne.mp (List.mem_filter.mp hz).2 (he.trans (h y rfl))
    · next hne =>
      refine List.nodup_cons.mpr ⟨fun hm => ?_, ih hxs⟩
      obtain ⟨y, hy, he⟩ := List.mem_map.mp hm
      rcases mem_settleBy hy with hy | hy
      · exact hne (he.symm.trans (h y hy))
      · exact hx (List.mem_map.mpr ⟨y, hy, he⟩)

theorem map_settleBy {key' : β → κ} {f : α → β} (h : ∀ x, key' (f x) = key x) (xs : List α) :
    (settleBy key k item xs).map f = settleBy key' k (item.map f) (xs.map f) := by
  have hitem : item.toList.map f = (item.map f).toList := by cases item <;> rfl
  induction xs with
  | nil => exact hitem
  | cons x xs ih =>
    by_cases hx : key x = k
    · simp [settleBy, h, hx, hitem, List.filter_map, Function.comp_def]
    · simp [settleBy, h, hx, ih]

/-- Items that all of the key's are among may be kept before or after. -/
theorem filter_settleBy {g : α → Bool} (hi : ∀ x ∈ item, g x = true) {xs : List α}
    (hk : ∀ x ∈ xs, key x = k → g x = true) :
    (settleBy key k item xs).filter g = settleBy key k item (xs.filter g) := by
  have hitem : item.toList.filter g = item.toList :=
    List.filter_eq_self.mpr fun x hx => hi x (Option.mem_toList.mp hx)
  induction xs with
  | nil => exact hitem
  | cons x xs ih =>
    obtain ⟨hx, hxs⟩ := List.forall_mem_cons.mp hk
    by_cases he : key x = k
    · rw [settleBy, if_pos he, List.filter_append, hitem, List.filter_cons_of_pos (hx he), settleBy,
        if_pos he, List.filter_filter, List.filter_filter]
      simp only [Bool.and_comm]
    · rw [settleBy, if_neg he]
      cases hg : g x with
      | false =>
        rw [List.filter_cons_of_neg (by simp [hg]), List.filter_cons_of_neg (by simp [hg]), ih hxs]
      | true =>
        rw [List.filter_cons_of_pos hg, List.filter_cons_of_pos hg, ih hxs, settleBy, if_neg he]

/-- Items that none of the key's are among stay. -/
theorem filter_settleBy_of_neg {g : α → Bool} (hi : ∀ x ∈ item, g x = false) {xs : List α}
    (hk : ∀ x ∈ xs, key x = k → g x = false) : (settleBy key k item xs).filter g = xs.filter g := by
  have hitem : item.toList.filter g = [] := by
    refine List.filter_eq_nil_iff.mpr fun x hx => ?_
    rw [hi x (Option.mem_toList.mp hx)]
    exact Bool.false_ne_true
  induction xs with
  | nil => exact hitem
  | cons x xs ih =>
    obtain ⟨hx, hxs⟩ := List.forall_mem_cons.mp hk
    by_cases he : key x = k
    · rw [settleBy, if_pos he, List.filter_append, hitem, List.nil_append, List.filter_filter,
        List.filter_cons_of_neg (by simp [hx he])]
      refine List.filter_congr fun y hy => ?_
      by_cases hy' : key y = k
      · simp [hxs y hy hy']
      · simp [hy']
    · rw [settleBy, if_neg he, List.filter_cons, List.filter_cons, ih hxs]

theorem settleBy_append {xs : List α} (h : ∀ x ∈ xs, key x ≠ k) (ys : List α) :
    settleBy key k item (xs ++ ys) = xs ++ settleBy key k item ys := by
  induction xs with
  | nil => rfl
  | cons x xs ih =>
    obtain ⟨hx, hxs⟩ := List.forall_mem_cons.mp h
    rw [List.cons_append, settleBy, if_neg hx, ih hxs, List.cons_append]

/-- A key that has its item, or none if it has to have none. -/
theorem settleBy_eq_self {xs : List α} (h : xs.filter (key · == k) = item.toList) :
    settleBy key k item xs = xs := by
  induction xs with
  | nil => exact h.symm
  | cons x xs ih =>
    by_cases hx : key x = k
    · rw [List.filter_cons_of_pos (by simpa using hx)] at h
      cases item with
      | none => cases h
      | some y =>
        obtain ⟨rfl, hxs⟩ := List.cons.inj h
        have hne : ∀ z ∈ xs, (key z != k) = true := by simpa using hxs
        rw [settleBy, if_pos hx, List.filter_eq_self.mpr hne]
        rfl
    · rw [List.filter_cons_of_neg (by simpa using hx)] at h
      rw [settleBy, if_neg hx, ih h]

theorem settleBy_settleBy {item' : Option α} (h : ∀ x ∈ item', key x = k)
    (hi : item = none ∨ item'.isSome = true) (xs : List α) :
    settleBy key k item (settleBy key k item' xs) = settleBy key k item xs := by
  induction xs with
  | nil =>
    cases item' with
    | none => rfl
    | some y => simp [settleBy, h y rfl]
  | cons x xs ih =>
    by_cases hx : key x = k
    · rw [settleBy, if_pos hx, settleBy, if_pos hx]
      cases item' with
      | none =>
        obtain rfl | hi := hi
        · simp [settleBy_none]
        · cases hi
      | some y => simp [settleBy, h y rfl]
    · rw [settleBy, if_neg hx, settleBy, if_neg hx, settleBy, if_neg hx, ih]

/-- A change under another key that concerns items of this key only, and not the place of the first
of them. -/
theorem settleBy_settleBy_of_key {key' : α → κ'} {k' : κ'} {item' : Option α}
    (hi : ∀ x ∈ item', key x = k) {xs : List α} (hk : ∀ x ∈ xs, key' x = k' → key x = k)
    (hfirst : item = none ∨ item'.isSome = true ∨
      ∀ x, xs.find? (key · == k) = some x → key' x ≠ k') :
    settleBy key k item (settleBy key' k' item' xs) = settleBy key k item xs := by
  have hne : ∀ ys : List α, (∀ y ∈ ys, key' y = k' → key y = k) →
      (settleBy key' k' item' ys).filter (fun y => key y != k) = ys.filter fun y => key y != k :=
    fun ys hys => filter_settleBy_of_neg (by simpa using hi) (by simpa using hys)
  induction xs with
  | nil =>
    cases item' with
    | none => rfl
    | some y => simp [settleBy, hi y rfl]
  | cons x xs ih =>
    obtain ⟨hx, hxs⟩ := List.forall_mem_cons.mp hk
    by_cases he : key x = k
    · by_cases he' : key' x = k'
      · have hrest : (xs.filter fun y => key' y != k').filter (fun y => key y != k) =
            xs.filter fun y => key y != k := by
          rw [List.filter_filter]
          refine List.filter_congr fun y hy => ?_
          by_cases hy' : key' y = k'
          · simp [hxs y hy hy']
          · simp [hy']
        rw [settleBy, if_pos he', settleBy, if_pos he]
        cases item' with
        | some y => simp [settleBy, hi y rfl, hrest]
        | none =>
          rcases hfirst with rfl | hsome | hfirst
          · simpa [settleBy_none] using hrest
          · cases hsome
          · exact absurd he' (hfirst x (by simp [he]))
      · rw [settleBy, if_neg he', settleBy, if_pos he, settleBy, if_pos he, hne xs hxs]
    · have he' : key' x ≠ k' := fun e => he (hx e)
      have hfirst' := hfirst.imp_right fun h => h.imp_right fun h y hy =>
        h y (by rw [List.find?_cons, beq_eq_false_iff_ne.mpr he]; exact hy)
      rw [settleBy, if_neg he', settleBy, if_neg he, settleBy, if_neg he, ih hxs hfirst']

/-- The item in its place: behind what stands in front of the first item of the key. -/
theorem settleBy_eq_append (item : Option α) (xs : List α) :
    settleBy key k item xs = (xs.takeWhile fun x => key x != k) ++ item.toList ++
      (xs.dropWhile fun x => key x != k).filter fun x => key x != k := by
  induction xs with
  | nil => simp [settleBy]
  | cons x xs ih =>
    by_cases hx : key x = k
    · simp [settleBy, hx]
    · simp [settleBy, hx, ih]

/-- Changes of two keys, if the item of one of them comes first. -/
theorem settleBy_comm_of_first {k' : κ} (hne : k ≠ k') {item' : Option α}
    (hi : ∀ x ∈ item, key x = k) (hi' : ∀ x ∈ item', key x = k') {x : α} (hx : key x = k)
    (xs : List α) :
    settleBy key k item (settleBy key k' item' (x :: xs)) =
      settleBy key k' item' (settleBy key k item (x :: xs)) := by
  have hx' : key x ≠ k' := fun he => hne (hx.symm.trans he)
  have hkept : (settleBy key k' item' xs).filter (fun y => key y != k) =
      settleBy key k' item' (xs.filter fun y => key y != k) :=
    filter_settleBy (fun y hy => bne_iff_ne.mpr fun he => hne (he.symm.trans (hi' y hy)))
      fun y _ hy => bne_iff_ne.mpr fun he => hne (he.symm.trans hy)
  have hitem : ∀ y ∈ item.toList, key y ≠ k' := fun y hy he =>
    hne ((hi y (Option.mem_toList.mp hy)).symm.trans he)
  calc settleBy key k item (settleBy key k' item' (x :: xs))
      = item.toList ++ (settleBy key k' item' xs).filter (fun y => key y != k) := by
        rw [settleBy, if_neg hx', settleBy, if_pos hx]
    _ = settleBy key k' item' (item.toList ++ xs.filter fun y => key y != k) := by
        rw [hkept, settleBy_append hitem]
    _ = settleBy key k' item' (settleBy key k item (x :: xs)) := by
        rw [settleBy, if_pos hx]

/-- Changes of two keys may be made in any order if one of the keys has an item. -/
theorem settleBy_comm {k' : κ} (hne : k ≠ k') {item' : Option α} (hi : ∀ x ∈ item, key x = k)
    (hi' : ∀ x ∈ item', key x = k') {xs : List α} (h : k ∈ xs.map key ∨ k' ∈ xs.map key) :
    settleBy key k item (settleBy key k' item' xs) =
      settleBy key k' item' (settleBy key k item xs) := by
  induction xs with
  | nil => rcases h with h | h <;> cases h
  | cons x xs ih =>
    by_cases hx : key x = k
    · exact settleBy_comm_of_first hne hi hi' hx xs
    by_cases hx' : key x = k'
    · exact (settleBy_comm_of_first hne.symm hi' hi hx' xs).symm
    have hrest : k ∈ xs.map key ∨ k' ∈ xs.map key :=
      h.imp (fun hm => (List.mem_cons.mp hm).resolve_left fun e => hx e.symm)
        fun hm => (List.mem_cons.mp hm).resolve_left fun e => hx' e.symm
    rw [settleBy, if_neg hx', settleBy, if_neg hx, ih hrest, settleBy, if_neg hx, settleBy,
      if_neg hx']

/-- Two keys that tell the same items apart. -/
theorem settleBy_congr {key' : α → κ'} {k' : κ'} {xs : List α}
    (h : ∀ x ∈ xs, key x = k ↔ key' x = k') :
    settleBy key k item xs = settleBy key' k' item xs := by
  induction xs with
  | nil => rfl
  | cons x xs ih =>
    obtain ⟨hx, hxs⟩ := List.forall_mem_cons.mp h
    have hf : (xs.filter fun y => key y != k) = xs.filter fun y => key' y != k' := by
      refine List.filter_congr fun y hy => ?_
      rw [Bool.eq_iff_iff, bne_iff_ne, bne_iff_ne]
      exact not_congr (hxs y hy)
    rw [settleBy, settleBy, ih hxs, hf]
    simp only [hx]

theorem settleBy_eq_map {xs : List α} (hd : (xs.map key).Nodup) (hk : k ∈ xs.map key) (y : α) :
    settleBy key k (some y) xs = xs.map fun x => if key x = k then y else x := by
  induction xs with
  | nil => cases hk
  | cons x xs ih =>
    obtain ⟨hx, hxs⟩ := List.nodup_cons.mp hd
    rw [settleBy, List.map_cons]
    by_cases he : key x = k
    · have hne : ∀ z ∈ xs, key z ≠ k := fun z hz h =>
        hx (List.mem_map.mpr ⟨z, hz, h.trans he.symm⟩)
      have hf : (xs.filter fun z => key z != k) = xs :=
        List.filter_eq_self.mpr fun z hz => bne_iff_ne.mpr (hne z hz)
      have hm : (xs.map fun z => if key z = k then y else z) = xs :=
        (List.map_congr_left fun z hz => if_neg (hne z hz)).trans (List.map_id' xs)
      rw [if_pos he, if_pos he, hf, hm]
      rfl
    · have hk' : k ∈ xs.map key := (List.mem_cons.mp hk).resolve_left fun e => he e.symm
      rw [if_neg he, if_neg he, ih hxs hk']

theorem mem_putBy {item x : α} {xs : List α} (h : x ∈ putBy key item xs) : x = item ∨ x ∈ xs := by
  induction xs with
  | nil => exact .inl (List.mem_singleton.mp h)
  | cons y ys ih =>
    unfold putBy at h
    split at h
    · exact (List.mem_cons.mp h).imp_right (List.mem_cons_of_mem _)
    · rcases List.mem_cons.mp h with rfl | h
      · exact .inr List.mem_cons_self
      · exact (ih h).imp_right (List.mem_cons_of_mem _)

end Shopfront
