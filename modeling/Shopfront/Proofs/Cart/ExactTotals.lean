import Mathlib.Data.List.Infix
import Mathlib.Data.List.Perm.Basic
import Shopfront.Proofs.Cart.Totals
import Shopfront.Proofs.Decimal.Exact

/-! Totals that lose nothing. Prices may be below zero here, and quantities any integers. While every
line's cost and every running sum fits into the context the subtotal is exact, so the order of the
lines does not matter, and a tax that fits is rounded once, to the nearest hundredth. Main statement:
`totals_exact`. -/

namespace Shopfront.Cart

open Decimal

/-- What a line costs, without limits. -/
def Line.exact (l : Line) : Exact := l.price.exact.mul ⟨l.quantity, 0⟩

/-- What lines cost together, without limits. -/
def exactSum (lines : List Line) : Exact := lines.foldl (fun sum l => sum.add l.exact) .zero

/-- The prices are finite, and every cost and every running sum fits into the context. -/
structure FitsThroughout (lines : List Line) : Prop where
  finite : ∀ l ∈ lines, l.price.isFinite = true
  costs : ∀ l ∈ lines, l.exact.Fits
  sums : ∀ first, first <+: lines → (exactSum first).Fits

theorem fitsThroughout_iff {lines : List Line} : FitsThroughout lines ↔
    (∀ l ∈ lines, l.price.isFinite = true ∧ l.exact.Fits) ∧
      ∀ first ∈ lines.inits, (exactSum first).Fits := by
  simp only [List.mem_inits]
  constructor
  · exact fun h => ⟨fun l hl => ⟨h.finite l hl, h.costs l hl⟩, h.sums⟩
  · exact fun ⟨hlines, hsums⟩ => ⟨fun l hl => (hlines l hl).1, fun l hl => (hlines l hl).2, hsums⟩

instance : DecidablePred FitsThroughout := fun _ => decidable_of_iff _ fitsThroughout_iff.symm

variable {lines other : List Line} {l : Line}

/-! ## Exact sums -/

theorem exactSum_concat (lines : List Line) (l : Line) :
    exactSum (lines ++ [l]) = (exactSum lines).add l.exact := List.foldl_concat ..

theorem exactSum_perm (h : lines.Perm other) : exactSum lines = exactSum other := by
  have hcomm : RightCommutative fun (sum : Exact) (l : Line) => sum.add l.exact :=
    ⟨fun sum _ _ => sum.add_right_comm _ _⟩
  exact h.foldl_eq _

theorem Line.value_exact (l : Line) : l.exact.value = l.amount := by
  have hquantity : (Exact.mk l.quantity 0).value = l.quantity := by simp [Exact.value]
  rw [Line.exact, Exact.value_mul, Decimal.value_exact, hquantity, Line.amount]

theorem value_exactSum (lines : List Line) :
    (exactSum lines).value = (lines.map Line.amount).sum := by
  induction lines using List.reverseRecOn with
  | nil => simp [exactSum, Exact.value, Exact.zero]
  | append_singleton lines l ih =>
    rw [exactSum_concat, Exact.value_add, ih, Line.value_exact, List.map_append, List.sum_append,
      List.map_singleton, List.sum_singleton]

/-! ## Subtotals -/

theorem addLine_exact {total : Exact} (ht : total.digits ≤ precision)
    (hfinite : l.price.isFinite = true) (hcost : l.exact.Fits) (hsum : (total.add l.exact).Fits) :
    addLine total.toDecimal l = .ok (total.add l.exact).toDecimal := by
  have hquantity : (ofInt l.quantity).exact = ⟨l.quantity, 0⟩ :=
    Exact.exact_toDecimal ⟨l.quantity, 0⟩
  have hproduct : l.price.exact.mul (ofInt l.quantity).exact = l.exact := by
    rw [hquantity, Line.exact]
  obtain ⟨cost, hmul, hcostFinite, hexact⟩ :=
    mul_exact hfinite (b := ofInt l.quantity) rfl (hproduct.symm ▸ hcost)
  rw [hproduct] at hexact
  have hadd := add_exact (x := total) hcostFinite ht (hexact.symm ▸ hcost.1) (hexact.symm ▸ hsum)
  rw [hexact] at hadd
  rw [addLine, hmul]
  exact hadd

theorem FitsThroughout.init (h : FitsThroughout (lines ++ [l])) : FitsThroughout lines where
  finite x hx := h.finite x (List.mem_append_left _ hx)
  costs x hx := h.costs x (List.mem_append_left _ hx)
  sums first hfirst := h.sums first (hfirst.trans (List.prefix_append _ _))

/-- A subtotal that fits throughout is exact. -/
theorem subtotal_exact (h : FitsThroughout lines) :
    subtotal lines = .ok (exactSum lines).toDecimal := by
  induction lines using List.reverseRecOn with
  | nil => rfl
  | append_singleton lines l ih =>
    have hl : l ∈ lines ++ [l] := List.mem_append_right _ (List.mem_singleton_self l)
    have hbefore : (exactSum lines).Fits := h.sums lines (List.prefix_append _ _)
    have hafter : (exactSum (lines ++ [l])).Fits := h.sums _ List.prefix_rfl
    rw [exactSum_concat] at hafter ⊢
    have hstep := addLine_exact hbefore.1 (h.finite l hl) (h.costs l hl) hafter
    have hlast : subtotal (lines ++ [l]) = (subtotal lines >>= fun total => addLine total l) := by
      rw [subtotal, List.foldlM_append, subtotal]
      simp
    rw [hlast, ih h.init]
    exact hstep

/-- **Totals that lose nothing.** If the prices are finite and every line's cost and every running sum
has at most 28 digits at an exponent of the context, the subtotal is the exact sum of price times
quantity, and any other order of the lines of which this holds comes to the same decimal. If the exact
tax on an amount has at most 28 digits and is below 10^26, it is rounded to the nearest hundredth, away
from zero if two are. -/
theorem totals_exact :
    (∀ lines, FitsThroughout lines → ∃ sum, subtotal lines = .ok sum ∧
      sum.value = (lines.map Line.amount).sum ∧
      ∀ other, other.Perm lines → FitsThroughout other → subtotal other = .ok sum) ∧
    ∀ amount rate : Decimal, amount.isFinite = true → rate.isFinite = true →
      (amount.exact.mul rate.exact).digits ≤ precision → |amount.value * rate.value| < 10 ^ 26 →
      ∃ negative cents, tax amount rate = .ok (.finite negative cents (-2)) ∧
        RoundsAway (amount.value * rate.value) (value (.finite negative cents (-2))) := by
  constructor
  · intro lines h
    refine ⟨_, subtotal_exact h, ?_, fun other hperm hother => ?_⟩
    · rw [value_toDecimal, value_exactSum]
    · rw [subtotal_exact hother, exactSum_perm hperm]
  · exact fun amount rate => roundToCents_mul

/-- Prices below zero, exponents above and below it, and a quantity of 25 digits; half a hundredth of
tax on less than nothing. -/
theorem totals_exact_of_mixed_lines :
    let lines : List Line :=
      [⟨none, 1, 3, .finite true 105 (-2)⟩, ⟨none, 2, -2, .finite false 2 3⟩,
        ⟨none, 3, 10 ^ 24, .finite false 5 (-3)⟩, ⟨none, 4, 0, .finite true 7 0⟩]
    FitsThroughout lines ∧ FitsThroughout lines.reverse ∧
      (∃ sum, subtotal lines = .ok sum ∧ sum.value = 5 * 10 ^ 21 - 4003.15 ∧
        subtotal lines.reverse = .ok sum) ∧
      ∃ negative cents, tax (.finite true 10 (-2)) (.finite false 5 (-2)) =
          .ok (.finite negative cents (-2)) ∧
        RoundsAway (-1 / 200) (value (.finite negative cents (-2))) := by
  intro lines
  have hfits : FitsThroughout lines := by decide +kernel
  have hreverse : FitsThroughout lines.reverse := by decide +kernel
  obtain ⟨hsubtotal, htax⟩ := totals_exact
  obtain ⟨sum, hsum, hvalue, hperm⟩ := hsubtotal lines hfits
  have hamount : (lines.map Line.amount).sum = 5 * 10 ^ 21 - 4003.15 := by
    norm_num [lines, Line.amount, value, scaled]
  have hproduct : value (.finite true 10 (-2)) * value (.finite false 5 (-2)) = -1 / 200 := by
    norm_num [value, scaled]
  have howed := htax (.finite true 10 (-2)) (.finite false 5 (-2)) rfl rfl (by decide +kernel)
    (by rw [hproduct]; norm_num [abs_lt])
  rw [hproduct] at howed
  exact ⟨hfits, hreverse, ⟨sum, hsum, hvalue.trans hamount, hperm _ (List.reverse_perm _) hreverse⟩,
    howed⟩

end Shopfront.Cart
