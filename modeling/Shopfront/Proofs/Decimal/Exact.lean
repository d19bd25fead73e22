import Shopfront.Proofs.Decimal.Sum

/-! Arithmetic that loses nothing. A number without limits is a signed coefficient at an exponent, and
a sum is taken at the lower of two exponents. Main statements: products and sums that fit into the
context are exact (`mul_exact`, `add_exact`), and a product of at most 28 digits is rounded to
hundredths as if it had not been fitted before (`roundToCents_mul`), which is to the nearest, away
from zero if two are (`roundsAway_hundredths`). -/

namespace Shopfront.Decimal

open Integer (digitCount digitCount_le_iff digitCount_pos lt_pow_digitCount pow_le_of_ne_zero)

/-- A number without limits to its digits or its exponent. -/
structure Exact where
  coefficient : Int
  exponent : Int
  deriving DecidableEq, Repr

namespace Exact

def value (x : Exact) : ℚ := x.coefficient * 10 ^ x.exponent

def zero : Exact := ⟨0, 0⟩

/-- The coefficient at an exponent that is no higher. -/
def coefficientAt (x : Exact) (low : Int) : Int := x.coefficient * 10 ^ (x.exponent - low).toNat

def mul (x y : Exact) : Exact := ⟨x.coefficient * y.coefficient, x.exponent + y.exponent⟩

/-- The sum at the lower of the exponents. -/
def add (x y : Exact) : Exact :=
  let low := min x.exponent y.exponent
  ⟨x.coefficientAt low + y.coefficientAt low, low⟩

def digits (x : Exact) : Nat := digitCount x.coefficient.natAbs

/-- At most 28 digits, the last of them no lower and the first no higher than the context reaches. -/
def Fits (x : Exact) : Prop :=
  x.digits ≤ precision ∧ tinyExponent ≤ x.exponent ∧
    adjusted x.coefficient.natAbs x.exponent ≤ topExponent

instance : DecidablePred Fits := fun _ => inferInstanceAs (Decidable (_ ∧ _ ∧ _))

def toDecimal (x : Exact) : Decimal :=
  .finite (decide (x.coefficient < 0)) x.coefficient.natAbs x.exponent

end Exact

/-- A finite decimal as a number without limits. -/
def exact : Decimal → Exact
  | .finite negative c e => ⟨signedCoefficient negative c, e⟩
  | _ => .zero

/-! ## Values -/

namespace Exact

variable {x y z : Exact}

theorem value_coefficientAt {low : Int} (h : low ≤ x.exponent) :
    (x.coefficientAt low : ℚ) * 10 ^ low = x.value := by
  unfold coefficientAt value
  push_cast
  rw [mul_assoc, ← zpow_natCast, ← zpow_add₀ (by norm_num)]
  congr 2
  omega

theorem value_add (x y : Exact) : (x.add y).value = x.value + y.value := by
  show ((x.coefficientAt _ + y.coefficientAt _ : Int) : ℚ) * 10 ^ min x.exponent y.exponent = _
  push_cast
  rw [add_mul, value_coefficientAt (min_le_left _ _), value_coefficientAt (min_le_right _ _)]

theorem value_mul (x y : Exact) : (x.mul y).value = x.value * y.value := by
  unfold mul value
  rw [zpow_add₀ (by norm_num)]
  push_cast
  ring

theorem eq_of_value (he : x.exponent = y.exponent) (hv : x.value = y.value) : x = y := by
  obtain ⟨c, e⟩ := x
  obtain ⟨c', e'⟩ := y
  obtain rfl : e = e' := he
  have hpow : (10 : ℚ) ^ e ≠ 0 := by positivity
  have hcast : (c : ℚ) = c' := mul_right_cancel₀ hpow hv
  rw [Int.cast_inj.mp hcast]

theorem add_comm (x y : Exact) : x.add y = y.add x :=
  eq_of_value (min_comm _ _) (by simp only [value_add]; ring)

/-- Summands may be taken in any order. -/
theorem add_right_comm (x y z : Exact) : (x.add y).add z = (x.add z).add y :=
  eq_of_value (min_right_comm _ _ _) (by simp only [value_add]; ring)

theorem exact_toDecimal (x : Exact) : x.toDecimal.exact = x := by
  obtain ⟨c, e⟩ := x
  have hc : signedCoefficient (decide (c < 0)) c.natAbs = c := by
    rcases lt_or_ge c 0 with hneg | hpos
    · rw [decide_eq_true hneg]
      show -(c.natAbs : Int) = c
      omega
    · rw [decide_eq_false (not_lt.mpr hpos)]
      show (c.natAbs : Int) = c
      omega
  exact congrArg (Exact.mk · e) hc

end Exact

theorem value_exact (d : Decimal) : d.exact.value = d.value := by
  cases d with
  | infinite | nan => simp [exact, Exact.value, Exact.zero, value]
  | finite negative c e =>
    cases negative <;> simp [exact, Exact.value, value, scaled, signedCoefficient, Integer.signed]

theorem value_toDecimal (x : Exact) : x.toDecimal.value = x.value := by
  rw [← value_exact, x.exact_toDecimal]

/-! ## Fitting -/

theorem fit_of_fits {x : Exact} (h : x.Fits) (negative : Bool) :
    fit negative x.coefficient.natAbs x.exponent =
      .ok (.finite negative x.coefficient.natAbs x.exponent) := by
  obtain ⟨hdigits, hlow, hhigh⟩ := h
  unfold fit
  split
  · next hzero =>
    rw [hzero] at hhigh ⊢
    have hclamp : clampExponent x.exponent = x.exponent := by
      have hadjusted : adjusted 0 x.exponent = x.exponent := add_zero x.exponent
      unfold clampExponent
      omega
    rw [hclamp]
  · have hexcess : excessDigits x.coefficient.natAbs x.exponent = 0 := by
      have hdigits : digitCount x.coefficient.natAbs ≤ precision := hdigits
      unfold excessDigits
      omega
    rw [if_neg (not_lt.mpr hhigh), hexcess, if_pos rfl]

/-! ## Products -/

theorem natAbs_signedCoefficient (negative : Bool) (c : Nat) :
    (signedCoefficient negative c).natAbs = c := by
  cases negative with
  | false => exact Int.natAbs_natCast c
  | true => exact (Int.natAbs_neg _).trans (Int.natAbs_natCast c)

theorem signedCoefficient_mul (s₁ s₂ : Bool) (c₁ c₂ : Nat) :
    signedCoefficient (s₁ != s₂) (c₁ * c₂) = signedCoefficient s₁ c₁ * signedCoefficient s₂ c₂ := by
  cases s₁ <;> cases s₂ <;> simp [signedCoefficient, Integer.signed]

/-- **A product that fits is exact.** -/
theorem mul_exact {a b : Decimal} (ha : a.isFinite = true) (hb : b.isFinite = true)
    (h : (a.exact.mul b.exact).Fits) :
    ∃ d, mul a b = .ok d ∧ d.isFinite = true ∧ d.exact = a.exact.mul b.exact := by
  cases a with
  | infinite | nan => cases ha
  | finite s₁ c₁ e₁ =>
    cases b with
    | infinite | nan => cases hb
    | finite s₂ c₂ e₂ =>
      have hfit := fit_of_fits h (s₁ != s₂)
      have hcoefficient : (exact (.finite s₁ c₁ e₁)).mul (exact (.finite s₂ c₂ e₂)) =
          ⟨signedCoefficient (s₁ != s₂) (c₁ * c₂), e₁ + e₂⟩ := by
        rw [signedCoefficient_mul]
        rfl
      rw [hcoefficient] at hfit ⊢
      rw [natAbs_signedCoefficient] at hfit
      exact ⟨_, hfit, rfl, rfl⟩

/-! ## Sums -/

/-- The sum of a number and one that is out of its reach has more than 28 digits. -/
theorem pow_le_natAbs_of_far {a b : Int} {e e₂ : Int} (hne : a.natAbs ≠ 0)
    (ha : digitCount a.natAbs ≤ precision) (hfar : adjusted b.natAbs e₂ < reach a.natAbs e) :
    10 ^ precision ≤ (a * 10 ^ (e - e₂).toNat + b).natAbs := by
  have hprecision : precision = 28 := rfl
  have hpos := digitCount_pos b.natAbs
  -- one summand has at most n digits and the other n + 2, of which the sum keeps n + 1
  obtain ⟨n, hn⟩ : ∃ n, (e - e₂).toNat + digitCount a.natAbs = n + 2 := by
    refine ⟨(e - e₂).toNat + digitCount a.natAbs - 2, ?_⟩
    unfold adjusted reach at hfar
    omega
  have hb : digitCount b.natAbs ≤ n ∧ precision ≤ n := by
    unfold adjusted reach at hfar
    omega
  have hlarge : 10 * 10 ^ n ≤ (a * 10 ^ (e - e₂).toNat).natAbs := by
    calc 10 * 10 ^ n = 10 ^ (digitCount a.natAbs - 1) * 10 ^ (e - e₂).toNat := by
          rw [← Nat.pow_succ', ← Nat.pow_add]
          congr 1
          have := digitCount_pos a.natAbs
          omega
      _ ≤ a.natAbs * 10 ^ (e - e₂).toNat := Nat.mul_le_mul_right _ (pow_le_of_ne_zero hne)
      _ = (a * 10 ^ (e - e₂).toNat).natAbs := by
          rw [Int.natAbs_mul, Int.natAbs_pow]
          rfl
  have hsmall : b.natAbs < 10 ^ n :=
    lt_of_lt_of_le (lt_pow_digitCount _) (Nat.pow_le_pow_right (by decide) hb.1)
  have hleast : 10 ^ precision ≤ 10 ^ n := Nat.pow_le_pow_right (by decide) hb.2
  generalize a * 10 ^ (e - e₂).toNat = large at hlarge ⊢
  omega

/-- No summand is replaced if the sum has at most 28 digits. -/
theorem nearby_of_digits {x y : Exact} (hx : x.digits ≤ precision)
    (hsum : (x.add y).digits ≤ precision) :
    nearby x.coefficient.natAbs x.exponent y.coefficient.natAbs y.exponent =
      (y.coefficient.natAbs, y.exponent) := by
  refine if_neg ?_
  rintro ⟨hne, hlt, hfar⟩
  have hadd : (x.add y).coefficient =
      x.coefficient * 10 ^ (x.exponent - y.exponent).toNat + y.coefficient := by
    simp [Exact.add, Exact.coefficientAt, min_eq_right hlt.le]
  have hsmall := (digitCount_le_iff (by decide)).mp hsum
  rw [hadd] at hsmall
  exact absurd hsmall (not_lt.mpr (pow_le_natAbs_of_far hne hx hfar))

theorem signedCoefficient_alignedCoefficient (negative : Bool) (c : Nat) (e low : Int) :
    signedCoefficient negative (alignedCoefficient c e low) =
      signedCoefficient negative c * 10 ^ (e - low).toNat := by
  unfold alignedCoefficient
  split
  · next hc =>
    rw [hc]
    cases negative <;> simp [signedCoefficient, Integer.signed]
  · cases negative <;> simp [signedCoefficient, Integer.signed]

/-- A sum has the sign of its coefficient, since zero is negative only if both summands are. -/
theorem sign_add (x : Exact) (negative : Bool) (c : Nat) (e : Int) :
    let sum := (x.add ⟨signedCoefficient negative c, e⟩).coefficient
    (if sum = 0 then decide (x.coefficient < 0) && negative else decide (sum < 0)) =
      decide (sum < 0) := by
  intro sum
  split
  · next hzero =>
    rw [hzero]
    cases negative with
    | false => exact Bool.and_false _
    | true =>
      refine (Bool.and_true _).trans (decide_eq_false fun hneg => ?_)
      have hx : x.coefficientAt (min x.exponent e) < 0 := mul_neg_of_neg_of_pos hneg (by positivity)
      have hd : (Exact.mk (signedCoefficient true c) e).coefficientAt (min x.exponent e) ≤ 0 :=
        mul_nonpos_of_nonpos_of_nonneg (Int.neg_nonpos_of_nonneg (Int.natCast_nonneg c))
          (by positivity)
      exact absurd hzero (add_neg_of_neg_of_nonpos hx hd).ne
  · rfl

/-- **A sum that fits is exact.** -/
theorem add_exact {x : Exact} {d : Decimal} (hd : d.isFinite = true) (hx : x.digits ≤ precision)
    (hdigits : d.exact.digits ≤ precision) (h : (x.add d.exact).Fits) :
    add x.toDecimal d = .ok (x.add d.exact).toDecimal := by
  cases d with
  | infinite | nan => cases hd
  | finite s c e =>
    have hnear := nearby_of_digits hx h.1
    have hnear' := nearby_of_digits hdigits (Exact.add_comm x _ ▸ h.1)
    have hx : signedCoefficient (decide (x.coefficient < 0)) x.coefficient.natAbs = x.coefficient :=
      congrArg Exact.coefficient x.exact_toDecimal
    simp only [exact, natAbs_signedCoefficient] at hnear hnear'
    show addFinite _ _ _ s c e = _
    simp only [addFinite, hnear, hnear', signedCoefficient_alignedCoefficient, hx]
    refine (fit_of_fits h _).trans ?_
    exact congrArg (fun negative => Except.ok (finite negative _ _)) (sign_add x s c e)

/-! ## Hundredths -/

/-- A multiple of a hundredth is no farther from `x` than another one can be, and beyond `x` if it is
just as far. -/
structure RoundsAway (x r : ℚ) : Prop where
  nearest : |r - x| ≤ 1 / 200
  away : |r - x| = 1 / 200 → |x| < |r|

theorem RoundsAway.neg {x r : ℚ} (h : RoundsAway x r) : RoundsAway (-x) (-r) := by
  have hdistance : |-r - -x| = |r - x| := by
    rw [← abs_neg (r - x)]
    congr 1
    ring
  constructor
  · rw [hdistance]
    exact h.nearest
  · rw [hdistance, abs_neg, abs_neg]
    exact h.away

theorem roundsAway_of_bounds {x r : ℚ} (hx : 0 ≤ x) (hlow : x - r < 1 / 200)
    (hhigh : r - x ≤ 1 / 200) : RoundsAway x r := by
  constructor
  · exact abs_le.mpr ⟨by linarith, hhigh⟩
  · intro htie
    have hbeyond : x < r := by
      by_contra hle
      rw [abs_of_nonpos (by linarith)] at htie
      linarith
    rwa [abs_of_nonneg hx, abs_of_nonneg (hx.trans hbeyond.le)]

theorem scaled_cents (c : Nat) : scaled c (-2) = c / 100 := by
  rw [scaled, zpow_neg, ← div_eq_mul_inv]
  norm_num

theorem roundsAway_divHalfUp {d : Nat} (hd : 0 < d) (c : Nat) :
    RoundsAway ((c : ℚ) / (d * 100)) ((divHalfUp c d : ℚ) / 100) := by
  have hdcast : (0 : ℚ) < d := by exact_mod_cast hd
  obtain ⟨hlow, hhigh⟩ := two_mul_divHalfUp_bounds (n := c) hd
  have hlow : (2 * c : ℚ) < 2 * (divHalfUp c d * d) + d := by exact_mod_cast hlow
  have hhigh : (2 * (divHalfUp c d * d) : ℚ) ≤ 2 * c + d := by exact_mod_cast hhigh
  refine roundsAway_of_bounds (by positivity) ?_ ?_
  · rw [sub_lt_iff_lt_add, div_lt_iff₀ (by positivity)]
    linarith
  · rw [sub_le_iff_le_add, ← sub_le_iff_le_add', le_div_iff₀ (by positivity)]
    linarith

/-- The multiple of a hundredth that an amount is rounded to. -/
theorem roundsAway_hundredths (c : Nat) (e : Int) :
    RoundsAway (scaled c e) (scaled (hundredths divHalfUp c e) (-2)) := by
  have hnonneg := scaled_nonneg c e
  unfold hundredths
  split
  · next hwhole =>
    have hexact : scaled (c * 10 ^ (e + 2).toNat) (-2) = scaled c e := by
      rw [scaled_mul_pow]
      congr 1
      omega
    rw [hexact]
    exact roundsAway_of_bounds hnonneg (by norm_num) (by norm_num)
  split
  · next htiny =>
    have hcount := digitCount_pos c
    have hsmall : scaled c e < 1 / 200 := by
      calc scaled c e < 10 ^ (adjusted c e + 1) := scaled_lt_pow c e
        _ ≤ 10 ^ (-3 : Int) := zpow_le_zpow_right₀ (by norm_num) (by unfold adjusted; omega)
        _ < 1 / 200 := by norm_num
    rw [scaled_zero]
    exact roundsAway_of_bounds hnonneg (by linarith) (by linarith)
  · next hfraction _ =>
    let d := 10 ^ (-2 - e).toNat
    have hd : 0 < d := Nat.pow_pos (by decide)
    have hdcast : (0 : ℚ) < d := by exact_mod_cast hd
    have hx : scaled c e = c / (d * 100) := by
      have hexact : scaled c e * d = c / 100 := by
        rw [← scaled_natCast d, ← scaled_mul, add_zero, scaled_mul_pow, ← scaled_cents]
        congr 1
        omega
      rw [eq_div_iff (by positivity), ← mul_assoc, hexact, div_mul_cancel₀ _ (by norm_num)]
    rw [scaled_cents, hx]
    exact roundsAway_divHalfUp hd c

theorem hundredths_zero (e : Int) : hundredths divHalfUp 0 e = 0 := by
  unfold hundredths
  split
  · exact Nat.zero_mul _
  split
  · rfl
  · exact (divHalfUp_of_dvd (Nat.pow_pos (by decide)) (Nat.zero_mod _)).trans (Nat.zero_div _)

/-- Digits below the lowest exponent are far below the hundredths. -/
theorem hundredths_of_low {c : Nat} {e : Int} (hc : digitCount c ≤ precision)
    (he : e ≤ tinyExponent) : hundredths divHalfUp c e = 0 := by
  have hprecision : precision = 28 := rfl
  have htiny : tinyExponent = -1000026 := rfl
  unfold hundredths
  rw [if_neg (by omega), if_pos (by omega)]

theorem roundToCents_finite (negative : Bool) {c : Nat} {e : Int}
    (h : (digitCount c : Int) + e + 2 ≤ precision) :
    roundToCents (.finite negative c e) = .ok (.finite negative (hundredths divHalfUp c e) (-2)) := by
  rcases eq_or_ne c 0 with rfl | hc
  · rw [hundredths_zero]
    rfl
  · simp only [roundToCents]
    rw [if_neg hc, if_neg (not_lt.mpr h)]

/-- What is below the lowest exponent is fitted there, with at most 28 digits. -/
theorem fit_low (negative : Bool) {c : Nat} {e : Int} (hc : c ≠ 0) (hdigits : digitCount c ≤ precision)
    (he : e < tinyExponent) :
    ∃ c', fit negative c e = .ok (.finite negative c' tinyExponent) ∧ digitCount c' ≤ precision := by
  have hprecision : precision = 28 := rfl
  have hexcess : excessDigits c e = (tinyExponent - e).toNat := by
    unfold excessDigits
    omega
  have hover : ¬topExponent < adjusted c e := by
    have htop : topExponent = 999999 := rfl
    have htiny : tinyExponent = -1000026 := rfl
    unfold adjusted
    omega
  obtain ⟨n, hn⟩ : ∃ n, (tinyExponent - e).toNat = n + 1 := ⟨(tinyExponent - e).toNat - 1, by omega⟩
  have hsmall : dropDigits c (n + 1) ≤ 10 ^ (precision - 1) := by
    rw [dropDigits_eq]
    refine divHalfEven_le (Nat.pow_pos (by decide)) ?_
    calc c ≤ 10 ^ precision := ((digitCount_le_iff (by decide)).mp hdigits).le
      _ ≤ 10 ^ (precision - 1) * 10 ^ (n + 1) := by
          rw [← Nat.pow_add]
          exact Nat.pow_le_pow_right (by decide) (by omega)
  have hlt : dropDigits c (n + 1) < 10 ^ precision := lt_of_le_of_lt hsmall (by decide)
  refine ⟨dropDigits c (n + 1), ?_, (digitCount_le_iff (by decide)).mpr hlt⟩
  have hlowest : e + ((n + 1 : Nat) : Int) = tinyExponent := by omega
  unfold fit
  rw [if_neg hc, if_neg hover, hexcess, hn]
  simp only
  rw [if_neg n.succ_ne_zero, if_neg hlt.ne, hlowest]

/-- An amount of at most 28 digits is rounded to hundredths as if it had not been fitted before. -/
theorem roundToCents_fit (negative : Bool) {c : Nat} {e : Int} (hdigits : digitCount c ≤ precision)
    (hsmall : scaled c e < 10 ^ 26) :
    (fit negative c e >>= roundToCents) =
      .ok (.finite negative (hundredths divHalfUp c e) (-2)) := by
  rcases eq_or_ne c 0 with rfl | hc
  · rw [hundredths_zero]
    rfl
  have hadjusted : adjusted c e < 26 := by
    have hpow : (10 : ℚ) ^ adjusted c e < 10 ^ (26 : Int) :=
      (pow_adjusted_le hc e).trans_lt (hsmall.trans_eq (by norm_num))
    exact (zpow_lt_zpow_iff_right₀ (by norm_num)).mp hpow
  have hprecision : precision = 28 := rfl
  have htiny : tinyExponent = -1000026 := rfl
  have htop : topExponent = 999999 := rfl
  rcases le_or_gt tinyExponent e with hfine | hlow
  · have hfits : (Exact.mk c e).Fits :=
      ⟨hdigits, hfine, by show adjusted c e ≤ topExponent; omega⟩
    have hfit : fit negative c e = .ok (.finite negative c e) := fit_of_fits hfits negative
    rw [hfit]
    refine roundToCents_finite negative ?_
    have := digitCount_pos c
    unfold adjusted at hadjusted
    omega
  · -- digits go, but the hundredths are zero with and without them
    obtain ⟨c', hfit, hdigits'⟩ := fit_low negative hc hdigits hlow
    rw [hfit, hundredths_of_low hdigits hlow.le, ← hundredths_of_low hdigits' le_rfl]
    exact roundToCents_finite negative (by omega)

theorem abs_value_finite (negative : Bool) (c : Nat) (e : Int) :
    |value (.finite negative c e)| = scaled c e := by
  cases negative with
  | false => exact abs_of_nonneg (scaled_nonneg c e)
  | true => exact (abs_neg _).trans (abs_of_nonneg (scaled_nonneg c e))

/-- **Hundredths of a product.** A product of at most 28 digits that is below 10^26 is rounded to
hundredths, to the nearest, away from zero if two are. -/
theorem roundToCents_mul {a b : Decimal} (ha : a.isFinite = true) (hb : b.isFinite = true)
    (hdigits : (a.exact.mul b.exact).digits ≤ precision) (hsmall : |a.value * b.value| < 10 ^ 26) :
    ∃ negative cents, (mul a b >>= roundToCents) = .ok (.finite negative cents (-2)) ∧
      RoundsAway (a.value * b.value) (value (.finite negative cents (-2))) := by
  cases a with
  | infinite | nan => cases ha
  | finite s₁ c₁ e₁ =>
    cases b with
    | infinite | nan => cases hb
    | finite s₂ c₂ e₂ =>
      have hvalue : value (.finite s₁ c₁ e₁) * value (.finite s₂ c₂ e₂) =
          value (.finite (s₁ != s₂) (c₁ * c₂) (e₁ + e₂)) := by
        simp only [value, scaled_mul]
        cases s₁ <;> cases s₂ <;> simp
      have hcount : digitCount (c₁ * c₂) ≤ precision := by
        have hmul : ((exact (.finite s₁ c₁ e₁)).mul (exact (.finite s₂ c₂ e₂))).coefficient.natAbs =
            c₁ * c₂ := by
          simp only [exact, Exact.mul, Int.natAbs_mul, natAbs_signedCoefficient]
        rwa [Exact.digits, hmul] at hdigits
      rw [hvalue] at hsmall ⊢
      rw [abs_value_finite] at hsmall
      refine ⟨_, _, roundToCents_fit (s₁ != s₂) hcount hsmall, ?_⟩
      have hrounds := roundsAway_hundredths (c₁ * c₂) (e₁ + e₂)
      cases s₁ != s₂ with
      | false => exact hrounds
      | true => exact hrounds.neg

end Shopfront.Decimal
