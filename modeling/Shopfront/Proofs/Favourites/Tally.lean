import Mathlib.Data.List.Nodup
import Mathlib.Data.List.Perm.Basic
import Mathlib.Logic.Function.Iterate
import Shopfront.Proofs.Favourites.Transition

/-! The tally of the toggles: what they have come to, and what those at work are coming to. The
outcomes of a product alternate, each outcome stands for one change of the product, and the store
knows of all changes but those after which a load is owed. Main statements: each thing that happens to
a toggle keeps the tally (`Tallied.send`, `Tallied.change`, `Tallied.load`, `Tallied.goOn`,
`Tallied.finish`). -/

namespace Shopfront.Favourites

/-! ## Alternating outcomes -/

/-- What a toggle comes to that finds a favourite, or finds none. -/
def outcomeOf (favourite : Bool) : Outcome := if favourite then .removed else .added

/-- The outcomes of toggles of one product that run one after another. -/
def alternating : Bool → Nat → List Outcome
  | _, 0 => []
  | favourite, n + 1 => outcomeOf favourite :: alternating (!favourite) n

theorem length_alternating (favourite : Bool) (n : Nat) : (alternating favourite n).length = n := by
  induction n generalizing favourite with
  | zero => rfl
  | succ n ih => simp [alternating, ih]

theorem alternating_succ (favourite : Bool) (n : Nat) :
    alternating favourite (n + 1) =
      alternating favourite n ++ [outcomeOf (not^[n] favourite)] := by
  induction n generalizing favourite with
  | zero => rfl
  | succ n ih =>
    calc alternating favourite (n + 2)
        = outcomeOf favourite :: alternating (!favourite) (n + 1) := rfl
      _ = outcomeOf favourite :: (alternating (!favourite) n ++
            [outcomeOf (not^[n] (!favourite))]) := by rw [ih]
      _ = alternating favourite (n + 1) ++ [outcomeOf (not^[n + 1] favourite)] := rfl

/-- The outcomes of a product in a log of outcomes. -/
def outcomesOf (product : Int) (log : List (Int × Outcome)) : List Outcome :=
  (log.filter (·.1 == product)).map (·.2)

theorem outcomesOf_append (product : Int) (log log' : List (Int × Outcome)) :
    outcomesOf product (log ++ log') = outcomesOf product log ++ outcomesOf product log' := by
  simp [outcomesOf]

theorem outcomesOf_cons (product : Int) (entry : Int × Outcome) (log : List (Int × Outcome)) :
    outcomesOf product (entry :: log) =
      (if entry.1 = product then [entry.2] else []) ++ outcomesOf product log := by
  by_cases h : entry.1 = product <;> simp [outcomesOf, h]

theorem length_outcomesOf (product : Int) (log : List (Int × Outcome)) :
    (outcomesOf product log).length = (log.map (·.1)).count product := by
  rw [outcomesOf, List.length_map, List.count, List.countP_map, List.countP_eq_length_filter]
  rfl

theorem outcomesOf_eq_nil {product : Int} {log : List (Int × Outcome)}
    (h : product ∉ log.map (·.1)) : outcomesOf product log = [] := by
  rw [← List.length_eq_zero_iff, length_outcomesOf, List.count_eq_zero]
  exact h

theorem eq_of_perm_of_length_le_one {outcomes outcomes' : List Outcome}
    (h : outcomes.Perm outcomes') (hle : outcomes.length ≤ 1) : outcomes' = outcomes := by
  match outcomes with
  | [] => exact h.symm.eq_nil
  | [outcome] => exact List.perm_singleton.mp h.symm

/-! ## Points of toggles -/

def Point.product? (point : Point) : Option Int := point.turn?.map (·.product)

/-- The product of a toggle, and the outcome that it is coming to. -/
def Point.outcome? (point : Point) : Option (Int × Outcome) :=
  point.toggle?.map fun toggle => (toggle.1.product, toggle.2)

/-- The product of a toggle whose change has been made. -/
def Point.changed? : Point → Option Int
  | .toggling .. => none
  | point => point.product?

/-- The product of a toggle whose change has been made, but not yet been listed. -/
def Point.owed? : Point → Option Int
  | .loadingIds (.toggled turn _ _) => some turn.product
  | _ => none

theorem Point.fst_outcome? (point : Point) : point.outcome?.map (·.1) = point.product? := by
  simp [outcome?, product?, turn?, Option.map_map, Function.comp_def]

theorem Point.product?_of_changed? {point : Point} {product : Int}
    (h : point.changed? = some product) : point.product? = some product := by
  cases point with
  | toggling => cases h
  | loadingIds | loadingDetails => exact h

theorem Point.product?_of_owed? {point : Point} {product : Int} (h : point.owed? = some product) :
    point.product? = some product := by
  cases point with
  | loadingIds next =>
    cases next with
    | toggled => exact h
    | nothing | details => cases h
  | loadingDetails | toggling => cases h

/-- The change of the toggle at a point, if it is one, has been made. -/
def Point.IsPast (point : Point) : Prop := point.changed? = point.product?

/-! ## The tally -/

/-- What the toggles that have ended, as logged, and those at work make of the favourites that they
started from, and what the store has listed of it. -/
structure Tallied (start ids favourites : List Int) (log : List (Int × Outcome))
    (points : List Point) : Prop where
  single : (points.filterMap Point.product?).Nodup
  outcomes : ∀ product, ∃ n, outcomesOf product (log ++ points.filterMap Point.outcome?) =
    alternating (decide (product ∈ start)) n
  members : ∀ product, decide (product ∈ favourites) =
    not^[(log.map (·.1) ++ points.filterMap Point.changed?).count product]
      (decide (product ∈ start))
  known : ∀ product, (product ∈ ids ↔ product ∈ favourites) ∨
    product ∈ points.filterMap Point.owed?
  listed : ids = favourites ∨ points.filterMap Point.owed? ≠ []

variable {start ids favourites : List Int} {log : List (Int × Outcome)} {point : Point}
  {points : List Point}

theorem fst_outcomes (points : List Point) :
    (points.filterMap Point.outcome?).map (·.1) = points.filterMap Point.product? := by
  rw [List.map_filterMap]
  exact List.filterMap_congr fun point _ => point.fst_outcome?

/-- Nothing is coming for a product that no toggle is at work on. -/
theorem outcomesOf_idle {product : Int} (hidle : product ∉ points.filterMap Point.product?) :
    outcomesOf product (points.filterMap Point.outcome?) = [] :=
  outcomesOf_eq_nil (by rwa [fst_outcomes])

theorem count_changed_idle {product : Int} (hidle : product ∉ points.filterMap Point.product?) :
    (points.filterMap Point.changed?).count product = 0 := by
  refine List.count_eq_zero.mpr fun hmem => hidle ?_
  obtain ⟨point, hpoint, hp⟩ := List.mem_filterMap.mp hmem
  exact List.mem_filterMap.mpr ⟨point, hpoint, Point.product?_of_changed? hp⟩

theorem tallied_nil (start : List Int) : Tallied start start start [] [] where
  single := List.nodup_nil
  outcomes _ := ⟨0, rfl⟩
  members _ := rfl
  known _ := .inl Iff.rfl
  listed := .inl rfl

namespace Tallied

/-- Of a product at most one toggle is at work. -/
theorem length_outcomesOf_le_one (h : Tallied start ids favourites log points) (product : Int) :
    (outcomesOf product (points.filterMap Point.outcome?)).length ≤ 1 := by
  rw [length_outcomesOf, fst_outcomes]
  exact List.nodup_iff_count_le_one.mp h.single product

theorem perm (h : Tallied start ids favourites log points) {points' : List Point}
    (hp : points.Perm points') : Tallied start ids favourites log points' where
  single := (hp.filterMap _).nodup_iff.mp h.single
  outcomes product := by
    have hperm := ((hp.filterMap Point.outcome?).filter (·.1 == product)).map (·.2)
    have hsame : outcomesOf product (points'.filterMap Point.outcome?) =
        outcomesOf product (points.filterMap Point.outcome?) :=
      eq_of_perm_of_length_le_one hperm (h.length_outcomesOf_le_one product)
    obtain ⟨n, hn⟩ := h.outcomes product
    rw [outcomesOf_append] at hn
    exact ⟨n, by rw [outcomesOf_append, hsame, hn]⟩
  members product := by
    rw [h.members product, ((hp.filterMap Point.changed?).append_left _).count_eq]
  known product := (h.known product).imp_right (hp.filterMap _).mem_iff.mp
  listed := by
    have hperm := hp.filterMap Point.owed?
    refine h.listed.imp_right fun hne he => hne ?_
    rw [he] at hperm
    exact hperm.eq_nil

/-- The ids are loaded. -/
theorem load (h : Tallied start ids favourites log points) :
    Tallied start favourites favourites log points :=
  { h with known := fun _ => .inl Iff.rfl, listed := .inl rfl }

/-- Where no toggle of a product is at work, the store knows whether it is a favourite, and the
outcomes of the product are those of as many toggles. -/
theorem settled (h : Tallied start ids favourites log points) {product : Int}
    (hidle : product ∉ points.filterMap Point.product?) :
    let n := (log.map (·.1)).count product
    outcomesOf product log = alternating (decide (product ∈ start)) n ∧
      decide (product ∈ favourites) = not^[n] (decide (product ∈ start)) ∧
      (product ∈ ids ↔ product ∈ favourites) := by
  intro n
  refine ⟨?_, ?_, ?_⟩
  · obtain ⟨m, hm⟩ := h.outcomes product
    rw [outcomesOf_append, outcomesOf_idle hidle, List.append_nil] at hm
    have hlength : n = m := by
      rw [← length_alternating (decide (product ∈ start)) m, ← hm, length_outcomesOf]
    rw [hm, hlength]
  · rw [h.members product, List.count_append, count_changed_idle hidle, Nat.add_zero]
  · refine (h.known product).resolve_right fun hmem => hidle ?_
    obtain ⟨point, hpoint, hp⟩ := List.mem_filterMap.mp hmem
    exact List.mem_filterMap.mpr ⟨point, hpoint, Point.product?_of_owed? hp⟩

/-- A toggle asks for the change of what the store has listed. -/
theorem send (h : Tallied start ids favourites log points) {turn : Turn}
    (hidle : turn.product ∉ points.filterMap Point.product?) (before : List Int) :
    Tallied start ids favourites log
      (.toggling turn before (outcomeOf (decide (turn.product ∈ ids))) :: points) where
  single := List.nodup_cons.mpr ⟨hidle, h.single⟩
  outcomes product := by
    show ∃ n, outcomesOf product (log ++ (turn.product, outcomeOf (decide (turn.product ∈ ids))) ::
      points.filterMap Point.outcome?) = _
    rw [outcomesOf_append, outcomesOf_cons]
    by_cases hp : turn.product = product
    · obtain ⟨hlog, hmem, hknown⟩ := h.settled (hp ▸ hidle)
      refine ⟨(log.map (·.1)).count product + 1, ?_⟩
      rw [if_pos hp, hp, outcomesOf_idle (hp ▸ hidle), List.append_nil, hlog,
        decide_eq_decide.mpr hknown, hmem, alternating_succ]
    · rw [if_neg hp, List.nil_append, ← outcomesOf_append]
      exact h.outcomes product
  members := h.members
  known := h.known
  listed := h.listed

/-- A toggle comes to the outcome that fits what it changes. -/
theorem outcome_eq {turn : Turn} {before : List Int} {outcome : Outcome}
    (h : Tallied start ids favourites log (.toggling turn before outcome :: points)) :
    outcome = outcomeOf (decide (turn.product ∈ favourites)) := by
  have hidle : turn.product ∉ points.filterMap Point.product? := (List.nodup_cons.mp h.single).1
  have hmembers : decide (turn.product ∈ favourites) =
      not^[(log.map (·.1)).count turn.product] (decide (turn.product ∈ start)) := by
    have hcount := h.members turn.product
    rw [List.count_append] at hcount
    rw [hcount]
    exact congrArg (fun k => not^[_ + k] _) (count_changed_idle hidle)
  obtain ⟨n, hn⟩ := h.outcomes turn.product
  have hn : outcomesOf turn.product log ++ [outcome] =
      alternating (decide (turn.product ∈ start)) n := by
    rw [← hn]
    show _ = outcomesOf _ (log ++ (turn.product, outcome) :: points.filterMap Point.outcome?)
    rw [outcomesOf_append, outcomesOf_cons, if_pos rfl, outcomesOf_idle hidle, List.append_nil]
  have hlength : (log.map (·.1)).count turn.product + 1 = n := by
    rw [← length_alternating (decide (turn.product ∈ start)) n, ← hn, List.length_append,
      length_outcomesOf]
    rfl
  rw [← hlength, alternating_succ, ← hmembers] at hn
  exact (List.cons.inj (List.append_inj' hn rfl).2).1

/-- The change of a toggle is made. -/
theorem change {turn : Turn} {before : List Int} {outcome : Outcome}
    (h : Tallied start ids favourites log (.toggling turn before outcome :: points))
    {favourites' : List Int} (hflip : ∀ product, decide (product ∈ favourites') =
      if product = turn.product then !decide (product ∈ favourites)
      else decide (product ∈ favourites)) :
    Tallied start ids favourites' log (.loadingIds (.toggled turn before outcome) :: points) where
  single := h.single
  outcomes := h.outcomes
  members product := by
    have hcount : (log.map (·.1) ++ (Point.loadingIds (.toggled turn before outcome) ::
        points).filterMap Point.changed?).count product =
          (log.map (·.1) ++ points.filterMap Point.changed?).count product +
            if turn.product = product then 1 else 0 := by
      show (log.map (·.1) ++ turn.product :: points.filterMap Point.changed?).count product = _
      rw [List.count_append, List.count_append, List.count_cons, Nat.add_assoc]
      simp only [beq_iff_eq]
    have hbefore : decide (product ∈ favourites) = not^[(log.map (·.1) ++
        points.filterMap Point.changed?).count product] (decide (product ∈ start)) :=
      h.members product
    rw [hflip product, hcount, hbefore]
    by_cases hp : product = turn.product
    · rw [if_pos hp, if_pos hp.symm, Function.iterate_succ_apply']
    · rw [if_neg hp, if_neg (Ne.symm hp), Nat.add_zero]
  known product := by
    by_cases hp : product = turn.product
    · exact .inr (hp ▸ List.mem_cons_self)
    · refine (h.known product).imp (fun hknown => ?_) (List.mem_cons_of_mem _)
      have hsame := hflip product
      rw [if_neg hp] at hsame
      exact hknown.trans (decide_eq_decide.mp hsame.symm)
  listed := .inr (List.cons_ne_nil _ _)

/-- Of what was owed nothing is missed if the ids have been listed since. -/
theorem known_of_listed (h : Tallied start ids favourites log (point :: points))
    (hlisted : ids = favourites ∨ point.owed? = none) {rest : List Int}
    (hrest : points.filterMap Point.owed? ⊆ rest) :
    (∀ product, (product ∈ ids ↔ product ∈ favourites) ∨ product ∈ rest) ∧
      (ids = favourites ∨ rest ≠ []) := by
  rcases hlisted with hlisted | hnone
  · exact ⟨fun _ => .inl (by rw [hlisted]), .inl hlisted⟩
  · have howed : (point :: points).filterMap Point.owed? = points.filterMap Point.owed? :=
      List.filterMap_cons_none hnone
    refine ⟨fun product => ?_, ?_⟩
    · have hknown := h.known product
      rw [howed] at hknown
      exact hknown.imp_right fun hmem => hrest hmem
    · have hpending := h.listed
      rw [howed] at hpending
      refine hpending.imp_right fun hne he => hne ?_
      rw [he] at hrest
      exact List.subset_nil.mp hrest

/-- A toggle whose change has been made goes on to its next load. -/
theorem goOn {point' : Point} (h : Tallied start ids favourites log (point :: points))
    (hpast : point.IsPast) (hlisted : ids = favourites ∨ point.owed? = none)
    (hpast' : point'.IsPast) (hsame : point'.toggle? = point.toggle?) :
    Tallied start ids favourites log (point' :: points) := by
  have hproduct : point'.product? = point.product? := by
    rw [Point.product?, Point.turn?, hsame, Point.product?, Point.turn?]
  have houtcome : point'.outcome? = point.outcome? := by
    rw [Point.outcome?, hsame, Point.outcome?]
  have hchanged : point'.changed? = point.changed? := by rw [hpast', hpast, hproduct]
  have front : ∀ {β : Type} {g : Point → Option β}, g point' = g point →
      (point' :: points).filterMap g = (point :: points).filterMap g := by
    intro β g hg
    rw [List.filterMap_cons, List.filterMap_cons, hg]
  have howed : points.filterMap Point.owed? ⊆ (point' :: points).filterMap Point.owed? :=
    ((List.sublist_cons_self point' points).filterMap _).subset
  obtain ⟨hknown, hcomplete⟩ := h.known_of_listed hlisted howed
  refine ⟨?_, ?_, ?_, hknown, hcomplete⟩
  · rw [front hproduct]
    exact h.single
  · rw [front houtcome]
    exact h.outcomes
  · rw [front hchanged]
    exact h.members

/-- A toggle whose change has been made ends. -/
theorem finish {entry : Int × Outcome} (h : Tallied start ids favourites log (point :: points))
    (hpast : point.IsPast) (hlisted : ids = favourites ∨ point.owed? = none)
    (hentry : point.outcome? = some entry) :
    Tallied start ids favourites (log ++ [entry]) points := by
  have hchanged : point.changed? = some entry.1 := by
    rw [hpast, ← point.fst_outcome?, hentry]
    rfl
  obtain ⟨hknown, hcomplete⟩ := h.known_of_listed hlisted (List.Subset.refl _)
  refine ⟨?_, fun product => ?_, fun product => ?_, hknown, hcomplete⟩
  · exact h.single.sublist ((List.sublist_cons_self point points).filterMap _)
  · obtain ⟨n, hn⟩ := h.outcomes product
    rw [List.filterMap_cons_some hentry] at hn
    exact ⟨n, by rw [List.append_assoc]; exact hn⟩
  · have hmembers := h.members product
    rw [List.filterMap_cons_some hchanged] at hmembers
    rw [hmembers, List.map_append, List.append_assoc]
    rfl

end Tallied

end Shopfront.Favourites
