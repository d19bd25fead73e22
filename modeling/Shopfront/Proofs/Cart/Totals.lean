import Mathlib.Data.Rat.Floor
import Shopfront.Proofs.Cart.Lines
import Shopfront.Proofs.Decimal.Sum

/-! Totals of well-formed lines. Main statements: the tax can be worked out if and only if the subtotal
is less than 2·10^27 (`tax_ok_iff`), and up to the fractions of the lines' amounts so can the totals
(`totals_ok_of_ceil`, `not_totals_ok_of_floor`). -/

namespace Shopfront.Cart

open Decimal

/-- The least subtotal whose tax needs more than 28 digits. -/
def totalLimit : Nat := 2 * 10 ^ 27

theorem totalLimit_cast : (totalLimit : ℚ) = 2 * 10 ^ 27 := by norm_num [totalLimit]

/-- What a line costs, exactly. -/
def Line.amount (l : Line) : ℚ := l.price.value * l.quantity

theorem isPrice_of_kept {d : Decimal} (h : d.Kept) : d.isPrice = true := by
  cases d with
  | finite negative c e =>
    cases negative with
    | false => rfl
    | true => simp [isPrice, isFinite, isBelowZero, h.1 rfl]
  | infinite | nan => exact h.elim

/-! ## Tax -/

/-- A number of 28 digits below the limit is below it by more than the rounding of the tax. -/
theorem value_le_of_lt_totalLimit {d : Decimal} (h : d.Kept) (hlt : d.value < totalLimit) :
    d.value ≤ totalLimit - 1 / 5 := by
  cases d with
  | infinite | nan => exact h.elim
  | finite negative c e =>
    rw [value_finite h.1] at hlt ⊢
    rcases le_or_gt 0 e with hwhole | hfraction
    · rw [scaled_eq_of_le hwhole, scaled_natCast] at hlt ⊢
      have hnat : c * 10 ^ (e - 0).toNat + 1 ≤ totalLimit := by exact_mod_cast hlt
      have hrat : ((c * 10 ^ (e - 0).toNat : Nat) : ℚ) + 1 ≤ totalLimit := by exact_mod_cast hnat
      linarith
    · have hc : (c : ℚ) < 10 ^ 28 := by exact_mod_cast h.2
      have hpow : (10 : ℚ) ^ e ≤ 10 ^ (-1 : Int) :=
        zpow_le_zpow_right₀ (by norm_num) (by omega)
      have hle : scaled c e ≤ c * 10 ^ (-1 : Int) :=
        mul_le_mul_of_nonneg_left hpow (Nat.cast_nonneg c)
      have htenth : (10 : ℚ) ^ (-1 : Int) = 1 / 10 := by norm_num
      rw [htenth] at hle
      rw [totalLimit_cast]
      linarith

/-- A tax that is rounded to 28 digits leaves two of them for the hundredths if and only if the amount
is below the limit. -/
theorem taxed_lt_iff {d taxed : Decimal} (h : d.Kept) (hr : RoundsTo (d.value * (1 / 20)) taxed) :
    taxed.value < 10 ^ 26 ↔ d.value < totalLimit := by
  constructor
  · intro hlt
    by_contra hge
    have hcents : ((10 ^ 26 : Nat) : ℚ) ≤ taxed.value := by
      refine hr.ge _ (representable_natCast (by decide)) ?_
      rw [totalLimit_cast] at hge
      push_cast
      linarith
    push_cast at hcents
    linarith
  · intro hlt
    have hle := value_le_of_lt_totalLimit h hlt
    -- The largest amount of hundredths that has 28 digits.
    have hcents : taxed.value ≤ scaled (10 ^ 28 - 1) (-2) := by
      refine hr.le _ ⟨10 ^ 28 - 1, -2, by decide, by decide, rfl⟩ ?_
      rw [totalLimit_cast] at hle
      norm_num [scaled]
      linarith
    refine lt_of_le_of_lt hcents ?_
    norm_num [scaled]

/-- The tax on an amount can be worked out if and only if the amount is below the limit. -/
theorem tax_ok_iff {d : Decimal} (h : d.Kept) :
    (∃ t, tax d defaultTaxRate = .ok t) ↔ d.value < totalLimit := by
  have hrate : scaled 5 (-2) = 1 / 20 := by norm_num [scaled]
  have hrounds := mul_rounds (isPrice_of_kept h) 5 (-2)
  rw [hrate] at hrounds
  have htax : tax d defaultTaxRate = (mul d (.finite false 5 (-2)) >>= roundToCents) := rfl
  rw [htax]
  cases hexact : mul d (.finite false 5 (-2)) with
  | error fault =>
    rw [hexact] at hrounds
    have hover : bound ≤ d.value * (1 / 20) := hrounds
    have hbound : bound = 10 ^ 28 := by norm_num [bound, precision]
    constructor
    · rintro ⟨t, ht⟩
      cases ht
    · intro hlt
      rw [hbound] at hover
      rw [totalLimit_cast] at hlt
      linarith
  | ok taxed =>
    rw [hexact] at hrounds
    exact (roundToCents_ok_iff hrounds.kept).trans (taxed_lt_iff h hrounds)

/-! ## Subtotal -/

theorem Line.WellFormed.amount_nonneg {l : Line} (h : l.WellFormed) : 0 ≤ l.amount := by
  obtain ⟨negative, c, e, hprice, hzero⟩ := exists_of_isPrice h.priced
  have hquantity : (0 : ℚ) ≤ l.quantity := by
    have := h.positive
    exact_mod_cast (by omega : 0 ≤ l.quantity)
  unfold amount
  rw [hprice, value_finite hzero]
  exact mul_nonneg (scaled_nonneg c e) hquantity

/-- The amount of a line is rounded before it is added. -/
theorem amount_rounds {l : Line} (h : l.WellFormed) :
    Rounds l.amount (mul l.price (ofInt l.quantity)) := by
  have hpositive := h.positive
  have hquantity : ofInt l.quantity = .finite false l.quantity.natAbs 0 := by
    simp [ofInt]
    omega
  have hvalue : scaled l.quantity.natAbs 0 = l.quantity := by
    rw [scaled_natCast, ← Int.cast_natCast, Int.natAbs_of_nonneg (by omega)]
  rw [hquantity, Line.amount, ← hvalue]
  exact mul_rounds h.priced _ _

/-- What a running sum comes to with one more line, if it comes to anything. -/
theorem addLine_ok {total next : Decimal} {l : Line} (h : addLine total l = .ok next) :
    ∃ amount, mul l.price (ofInt l.quantity) = .ok amount ∧ add total amount = .ok next := by
  unfold addLine at h
  cases hamount : mul l.price (ofInt l.quantity) with
  | error fault =>
    rw [hamount] at h
    cases h
  | ok amount =>
    rw [hamount] at h
    exact ⟨amount, rfl, h⟩

/-- One more line: the sum is no more than what the amounts come to if each is rounded up. -/
theorem addLine_ceil {total : Decimal} (ht : total.Kept) {l : Line} (hl : l.WellFormed) {high : Nat}
    (hhigh : total.value ≤ high) (hbound : high + ⌈l.amount⌉₊ < 10 ^ precision) :
    ∃ next, addLine total l = .ok next ∧ next.Kept ∧ next.value ≤ (high + ⌈l.amount⌉₊ : Nat) := by
  have hamount := amount_rounds hl
  have hceil := Nat.le_ceil l.amount
  have hlt : ((high + ⌈l.amount⌉₊ : Nat) : ℚ) < bound := by
    unfold bound
    exact_mod_cast hbound
  have hnonneg := ht.value_nonneg
  push_cast at hlt
  unfold addLine
  cases hproduct : mul l.price (ofInt l.quantity) with
  | error fault =>
    rw [hproduct] at hamount
    have hover : bound ≤ l.amount := hamount
    have := (Nat.cast_nonneg high : (0 : ℚ) ≤ high)
    linarith
  | ok amount =>
    rw [hproduct] at hamount
    have hle := hamount.le _ (representable_natCast (by omega)) hceil
    have hsum := add_rounds ht hamount.kept
    cases hadd : add total amount with
    | error fault =>
      rw [hadd] at hsum
      have hover : bound ≤ total.value + amount.value := hsum
      linarith
    | ok next =>
      rw [hadd] at hsum
      refine ⟨next, hadd, hsum.kept, hsum.le _ (representable_natCast hbound.le) ?_⟩
      push_cast
      linarith

/-- One more line: the sum is no less than what the amounts come to if each is rounded down, as far
as the context counts. -/
theorem addLine_floor {total next : Decimal} (ht : total.Kept) {l : Line} (hl : l.WellFormed)
    {low : Nat} (hlow : (min low (10 ^ precision) : Nat) ≤ total.value)
    (h : addLine total l = .ok next) :
    next.Kept ∧ (min (low + ⌊l.amount⌋₊) (10 ^ precision) : Nat) ≤ next.value := by
  obtain ⟨amount, hproduct, hadd⟩ := addLine_ok h
  have hamount := amount_rounds hl
  rw [hproduct] at hamount
  have hsum := add_rounds ht hamount.kept
  rw [hadd] at hsum
  have hfloor : ((min ⌊l.amount⌋₊ (10 ^ precision) : Nat) : ℚ) ≤ amount.value := by
    refine hamount.ge _ (representable_natCast (min_le_right _ _)) ?_
    have hle : ((min ⌊l.amount⌋₊ (10 ^ precision) : Nat) : ℚ) ≤ ⌊l.amount⌋₊ := by
      exact_mod_cast min_le_left _ _
    exact hle.trans (Nat.floor_le hl.amount_nonneg)
  refine ⟨hsum.kept, hsum.ge _ (representable_natCast (min_le_right _ _)) ?_⟩
  have hmin : ∀ cap : Nat, min (low + ⌊l.amount⌋₊) cap ≤ min low cap + min ⌊l.amount⌋₊ cap := by
    intro cap
    omega
  have hcast : ((min (low + ⌊l.amount⌋₊) (10 ^ precision) : Nat) : ℚ) ≤
      (min low (10 ^ precision) : Nat) + (min ⌊l.amount⌋₊ (10 ^ precision) : Nat) := by
    exact_mod_cast hmin _
  linarith

theorem foldlM_addLine_ceil {lines : List Line} (hl : ∀ l ∈ lines, l.WellFormed) {total : Decimal}
    (ht : total.Kept) {high : Nat} (hhigh : total.value ≤ high)
    (hbound : high + (lines.map (⌈·.amount⌉₊)).sum < 10 ^ precision) :
    ∃ sum, lines.foldlM addLine total = .ok sum ∧ sum.Kept ∧
      sum.value ≤ (high + (lines.map (⌈·.amount⌉₊)).sum : Nat) := by
  induction lines generalizing total high with
  | nil => exact ⟨total, rfl, ht, by simpa using hhigh⟩
  | cons l lines ih =>
    obtain ⟨hline, hlines⟩ := List.forall_mem_cons.mp hl
    rw [List.map_cons, List.sum_cons, ← Nat.add_assoc] at hbound ⊢
    obtain ⟨next, hnext, hkept, hvalue⟩ := addLine_ceil ht hline hhigh (by omega)
    rw [List.foldlM_cons, hnext]
    exact ih hlines hkept hvalue hbound

theorem foldlM_addLine_floor {lines : List Line} (hl : ∀ l ∈ lines, l.WellFormed)
    {total sum : Decimal} (ht : total.Kept) {low : Nat}
    (hlow : (min low (10 ^ precision) : Nat) ≤ total.value)
    (h : lines.foldlM addLine total = .ok sum) :
    sum.Kept ∧ (min (low + (lines.map (⌊·.amount⌋₊)).sum) (10 ^ precision) : Nat) ≤ sum.value := by
  induction lines generalizing total low with
  | nil =>
    cases h
    exact ⟨ht, by simpa using hlow⟩
  | cons l lines ih =>
    obtain ⟨hline, hlines⟩ := List.forall_mem_cons.mp hl
    rw [List.foldlM_cons] at h
    cases hnext : addLine total l with
    | error fault =>
      rw [hnext] at h
      cases h
    | ok next =>
      rw [hnext] at h
      obtain ⟨hkept, hvalue⟩ := addLine_floor ht hline hlow hnext
      rw [List.map_cons, List.sum_cons, ← Nat.add_assoc]
      exact ih hlines hkept hvalue h

/-! ## Totals -/

variable {lines : List Line}

/-- A subtotal is no less than what the amounts come to if each is rounded down. -/
theorem floor_le_subtotal (hl : ∀ l ∈ lines, l.WellFormed) {sum : Decimal}
    (h : subtotal lines = .ok sum) : sum.Kept ∧
      (min (lines.map (⌊·.amount⌋₊)).sum (10 ^ precision) : Nat) ≤ sum.value := by
  have hlow : (min 0 (10 ^ precision) : Nat) ≤ Decimal.zero.value := by simp [value_zero]
  have hfloor := foldlM_addLine_floor hl kept_zero hlow h
  rwa [Nat.zero_add] at hfloor

/-- The totals can be worked out if and only if the subtotal can and is below the limit. -/
theorem totals_ok_iff (hl : ∀ l ∈ lines, l.WellFormed) :
    (∃ t, totals lines defaultTaxRate = .ok t) ↔
      ∃ sum, subtotal lines = .ok sum ∧ sum.value < totalLimit := by
  unfold totals
  cases hsum : subtotal lines with
  | error fault =>
    constructor
    · rintro ⟨t, ht⟩
      cases ht
    · rintro ⟨sum, hs, _⟩
      cases hs
  | ok sum =>
    have htax := tax_ok_iff (floor_le_subtotal hl hsum).1
    constructor
    · rintro ⟨t, ht⟩
      refine ⟨sum, rfl, htax.mp ?_⟩
      cases howed : tax sum defaultTaxRate with
      | ok owed => exact ⟨owed, rfl⟩
      | error fault =>
        simp only [bind, Except.bind, howed] at ht
        cases ht
    · rintro ⟨sum', hs, hlt⟩
      cases hs
      obtain ⟨owed, howed⟩ := htax.mpr hlt
      refine ⟨⟨sum, owed⟩, ?_⟩
      simp only [bind, Except.bind, howed]
      rfl

/-- The totals can be worked out if the amounts, each rounded up, stay below the limit. -/
theorem totals_ok_of_ceil (hl : ∀ l ∈ lines, l.WellFormed)
    (h : (lines.map (⌈·.amount⌉₊)).sum < totalLimit) : ∃ t, totals lines defaultTaxRate = .ok t := by
  have hlimit : totalLimit < 10 ^ precision := by decide
  have hhigh : Decimal.zero.value ≤ (0 : Nat) := by simp [value_zero]
  obtain ⟨sum, hsum, _, hvalue⟩ := foldlM_addLine_ceil hl kept_zero hhigh (by omega)
  refine (totals_ok_iff hl).mpr ⟨sum, hsum, lt_of_le_of_lt hvalue ?_⟩
  exact_mod_cast (Nat.zero_add _).trans_lt h

/-- They cannot if the amounts, each rounded down, reach the limit. -/
theorem not_totals_ok_of_floor (hl : ∀ l ∈ lines, l.WellFormed)
    (h : totalLimit ≤ (lines.map (⌊·.amount⌋₊)).sum) : ¬∃ t, totals lines defaultTaxRate = .ok t := by
  rw [totals_ok_iff hl]
  rintro ⟨sum, hsum, hlt⟩
  have hvalue := (floor_le_subtotal hl hsum).2
  have hlimit : totalLimit ≤ min (lines.map (⌊·.amount⌋₊)).sum (10 ^ precision) :=
    le_min h (by decide)
  have hcast : (totalLimit : ℚ) ≤ (min (lines.map (⌊·.amount⌋₊)).sum (10 ^ precision) : Nat) := by
    exact_mod_cast hlimit
  linarith

end Shopfront.Cart
