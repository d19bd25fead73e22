import Shopfront.Proofs.Cart.Lines

/-! Where a changed line stands among the lines of a cart. Main statement: the laws of a change
(`withLine_in_place`), of which the order of two changes has an exact condition
(`withLine_comm_iff`). -/

namespace Shopfront.Cart

variable {product : Int} {shown : Option Line}

theorem withLine_withLine (h : ∀ l ∈ shown, l.product = product) {next : Option Line}
    (hnext : next = none ∨ shown.isSome = true) (lines : List Line) :
    withLine product next (withLine product shown lines) = withLine product next lines := by
  simp only [withLine_eq_settleBy]
  exact settleBy_settleBy h hnext lines

/-- Lines of two products that had none stand in the order in which they were put. -/
theorem withLine_comm_iff {line other : Line} (hne : other.product ≠ line.product)
    (lines : List Line) :
    withLine other.product (some other) (withLine line.product (some line) lines) =
        withLine line.product (some line) (withLine other.product (some other) lines) ↔
      line.product ∈ lines.map (·.product) ∨ other.product ∈ lines.map (·.product) := by
  have own : ∀ l : Line, ∀ x ∈ some l, x.product = l.product := by
    rintro l x ⟨⟩
    rfl
  simp only [withLine_eq_settleBy]
  constructor
  · intro hcomm
    refine Classical.byContradiction fun hnew => ?_
    obtain ⟨hline, hother⟩ := not_or.mp hnew
    have absent : ∀ l : Line, l.product ∉ lines.map (·.product) →
        ∀ x ∈ lines, x.product ≠ l.product :=
      fun l hl x hx he => hl (List.mem_map.mpr ⟨x, hx, he⟩)
    have append : ∀ l m : Line, l.product ∉ lines.map (·.product) →
        m.product ∉ lines.map (·.product) → m.product ≠ l.product →
        settleBy Line.product m.product (some m) (settleBy Line.product l.product (some l) lines) =
          lines ++ [l, m] := by
      intro l m hl hm hlm
      rw [settleBy_of_not_mem (absent l hl), settleBy_append (absent m hm)]
      simp [settleBy, hlm.symm]
    rw [append line other hline hother hne, append other line hother hline hne.symm,
      List.append_cancel_left_eq] at hcomm
    obtain ⟨rfl, _⟩ := List.cons.inj hcomm
    exact hne rfl
  · intro hpresent
    exact settleBy_comm hne (own other) (own line) hpresent.symm

/-- **A line in its place.** A change of a product's line leaves that line, or none, as the only one
of the product, and leaves the lines of the other products as they are and in their order. A line
stands where the product's first line stood among them, or last if the product had none. Of two
lines put for a product the second counts, and a product is dropped as if it had not been changed
before. Lines of two products may be put in any order exactly if one of them has a line already. -/
theorem withLine_in_place (h : ∀ l ∈ shown, l.product = product) (lines : List Line) :
    let after := withLine product shown lines
    after.filter (·.product == product) = shown.toList ∧
      after.filter (·.product != product) = lines.filter (·.product != product) ∧
      (∀ line ∈ shown, after = lines.takeWhile (·.product != product) ++
        line :: (lines.dropWhile (·.product != product)).filter (·.product != product)) ∧
      (∀ next, shown ≠ none →
        withLine product (some next) after = withLine product (some next) lines) ∧
      withLine product none after = withLine product none lines ∧
      ∀ line ∈ shown, ∀ other : Line, other.product ≠ product →
        (withLine other.product (some other) after =
            withLine product shown (withLine other.product (some other) lines) ↔
          product ∈ lines.map (·.product) ∨ other.product ∈ lines.map (·.product)) := by
  intro after
  have hafter : after = settleBy Line.product product shown lines := withLine_eq_settleBy ..
  refine ⟨?_, ?_, ?_, ?_, ?_, ?_⟩
  · rw [hafter, filter_eq_settleBy h, if_pos rfl]
  · rw [hafter, filter_settleBy_of_neg (by simpa using h) (by simp)]
  · rintro line rfl
    rw [hafter, settleBy_eq_append]
    simp
  · intro next hsome
    exact withLine_withLine h (.inr (Option.isSome_iff_ne_none.mpr hsome)) lines
  · exact withLine_withLine h (.inl rfl) lines
  · rintro line rfl other hne
    obtain rfl := h line rfl
    exact withLine_comm_iff hne lines

/-- A product with two lines among others. -/
theorem withLine_in_place_repeated :
    let line (id : Nat) (product : Int) : Line := ⟨some (.number id), product, 1, .zero⟩
    let lines := [line 1 9, line 2 7, line 3 8, line 4 7]
    (∀ l ∈ some (line 5 7), l.product = 7) ∧
      withLine 7 (some (line 5 7)) lines = [line 1 9, line 5 7, line 3 8] ∧
      withLine 6 (some (line 6 6)) (withLine 7 (some (line 5 7)) lines) =
        withLine 7 (some (line 5 7)) (withLine 6 (some (line 6 6)) lines) := by
  intro line lines
  have hproduct : ∀ l ∈ some (line 5 7), l.product = 7 := by
    rintro l ⟨⟩
    rfl
  obtain ⟨_, _, hplace, _, _, hcomm⟩ := withLine_in_place hproduct lines
  refine ⟨hproduct, (hplace _ rfl).trans (by decide), ?_⟩
  exact (hcomm _ rfl (line 6 6) (by decide)).mpr (by decide)

end Shopfront.Cart
