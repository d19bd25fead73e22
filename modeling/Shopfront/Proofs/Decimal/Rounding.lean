import Mathlib.Algebra.Order.Field.Basic
import Mathlib.Algebra.Order.Field.Power
import Mathlib.Data.Rat.Cast.Order
import Mathlib.Tactic.Linarith
import Mathlib.Tactic.NormNum
import Mathlib.Tactic.Ring
import Shopfront.Decimal.Arithmetic

/-! Rounding in the decimal context. Main statement: a number that is fitted into the context crosses
no number that the context can hold, and it is refused only if it is larger than the numbers without a
fraction can be (`fit_rounds`). -/

namespace Shopfront

/-! ## Quotients -/

/-- A quotient is no more than a bound whose multiple is no less than the dividend. -/
theorem divHalfEven_le {n d m : Nat} (hd : 0 < d) (h : n ≤ m * d) : divHalfEven n d ≤ m := by
  have hq : n / d ≤ m := by
    rw [Nat.div_le_iff_le_mul hd]
    omega
  unfold divHalfEven
  split
  · exact hq
  · next hround =>
    rcases Nat.lt_or_eq_of_le hq with hlt | heq
    · exact hlt
    · -- The dividend is the multiple itself, so nothing was rounded up.
      have hdiv := Nat.div_add_mod n d
      have hzero : n % d = 0 := by
        rw [heq, Nat.mul_comm] at hdiv
        omega
      exact absurd (.inl (by rw [hzero]; omega)) hround

/-- A quotient is no less than a bound whose multiple is no more than the dividend. -/
theorem le_divHalfEven {n d m : Nat} (hd : 0 < d) (h : m * d ≤ n) : m ≤ divHalfEven n d := by
  have hq : m ≤ n / d := (Nat.le_div_iff_mul_le hd).mpr h
  unfold divHalfEven
  split
  · exact hq
  · exact Nat.le_succ_of_le hq

/-! ## Digits -/

namespace Integer

theorem digitCount_le_iff {n k : Nat} (hk : 0 < k) : digitCount n ≤ k ↔ n < 10 ^ k :=
  Nat.length_toDigits_le_iff (by decide) hk

theorem digitCount_pos (n : Nat) : 0 < digitCount n := Nat.length_toDigits_pos

theorem lt_pow_digitCount (n : Nat) : n < 10 ^ digitCount n :=
  (digitCount_le_iff (digitCount_pos n)).mp (Nat.le_refl _)

theorem pow_le_of_ne_zero {n : Nat} (h : n ≠ 0) : 10 ^ (digitCount n - 1) ≤ n := by
  rcases Nat.eq_zero_or_pos (digitCount n - 1) with hzero | hpos
  · rw [hzero]
    exact Nat.one_le_iff_ne_zero.mpr h
  · have hmore : ¬digitCount n ≤ digitCount n - 1 := by omega
    exact Nat.not_lt.mp fun hlt => hmore ((digitCount_le_iff hpos).mpr hlt)

end Integer

namespace Decimal

open Integer (digitCount digitCount_le_iff digitCount_pos lt_pow_digitCount pow_le_of_ne_zero)

/-- The digits that are dropped are rounded to the nearest, also where all digits go. -/
theorem dropDigits_eq (c n : Nat) : dropDigits c n = divHalfEven c (10 ^ n) := by
  unfold dropDigits
  split
  · next h =>
    have hsmall : 10 * c < 10 ^ n := by
      calc 10 * c < 10 * 10 ^ digitCount c := by
            have := lt_pow_digitCount c
            omega
        _ = 10 ^ (digitCount c + 1) := by rw [Nat.pow_succ, Nat.mul_comm]
        _ ≤ 10 ^ n := Nat.pow_le_pow_right (by decide) h
    have hmod : c % 10 ^ n = c := Nat.mod_eq_of_lt (by omega)
    have hdiv : c / 10 ^ n = 0 := Nat.div_eq_of_lt (by omega)
    unfold divHalfEven
    rw [hmod, hdiv, if_pos (.inl (by omega))]
  · rfl

/-! ## Values -/

/-- The number `c·10^e`. -/
def scaled (c : Nat) (e : Int) : ℚ := c * 10 ^ e

def value : Decimal → ℚ
  | .finite negative c e => if negative then -scaled c e else scaled c e
  | _ => 0

theorem scaled_zero (e : Int) : scaled 0 e = 0 := by simp [scaled]

theorem scaled_nonneg (c : Nat) (e : Int) : 0 ≤ scaled c e := by
  unfold scaled
  positivity

theorem scaled_natCast (c : Nat) : scaled c 0 = c := by simp [scaled]

theorem scaled_le_iff {c c' : Nat} {e : Int} : scaled c e ≤ scaled c' e ↔ c ≤ c' := by
  have hpos : (0 : ℚ) < 10 ^ e := by positivity
  unfold scaled
  rw [mul_le_mul_iff_left₀ hpos, Nat.cast_le]

theorem scaled_mul_pow (c n : Nat) (e : Int) : scaled (c * 10 ^ n) e = scaled c (e + n) := by
  unfold scaled
  rw [zpow_add₀ (by norm_num), zpow_natCast]
  push_cast
  ring

theorem scaled_add (c c' : Nat) (e : Int) : scaled (c + c') e = scaled c e + scaled c' e := by
  unfold scaled
  push_cast
  ring

/-- The same number at a lower exponent. -/
theorem scaled_eq_of_le {e k : Int} (h : e ≤ k) (c : Nat) :
    scaled c k = scaled (c * 10 ^ (k - e).toNat) e := by
  rw [scaled_mul_pow]
  congr 1
  omega

theorem scaled_one (e : Int) : scaled 1 e = 10 ^ e := by simp [scaled]

/-- A number is no less than the power of ten of its first digit, and less than the next. -/
theorem pow_adjusted_le {c : Nat} (hc : c ≠ 0) (e : Int) : 10 ^ adjusted c e ≤ scaled c e := by
  rw [← scaled_one, adjusted, ← scaled_mul_pow, one_mul]
  exact scaled_le_iff.mpr (pow_le_of_ne_zero hc)

theorem scaled_lt_pow (c : Nat) (e : Int) : scaled c e < 10 ^ (adjusted c e + 1) := by
  have hcount := digitCount_pos c
  have hexp : adjusted c e + 1 = e + (digitCount c : Nat) := by
    unfold adjusted
    omega
  rw [hexp, ← scaled_one, ← scaled_mul_pow, one_mul]
  exact lt_of_not_ge fun h => absurd (scaled_le_iff.mp h) (Nat.not_le.mpr (lt_pow_digitCount c))

/-! ## Numbers of the context -/

/-- A number that the context can hold: of at most 28 digits, at an exponent that is not too low. -/
def Representable (x : ℚ) : Prop :=
  ∃ b k, b ≤ 10 ^ precision ∧ tinyExponent ≤ k ∧ x = scaled b k

theorem representable_natCast {n : Nat} (h : n ≤ 10 ^ precision) : Representable n :=
  ⟨n, 0, h, by decide, (scaled_natCast n).symm⟩

/-- The least number that has more than 28 digits before the point. -/
def bound : ℚ := (10 ^ precision : Nat)

theorem representable_bound : Representable bound := representable_natCast (Nat.le_refl _)

/-- A number not below zero, of at most 28 digits. -/
def Kept : Decimal → Prop
  | .finite negative c _ => (negative = true → c = 0) ∧ c < 10 ^ precision
  | _ => False

/-- A decimal that rounds `x`: no number of the context lies between the two. -/
structure RoundsTo (x : ℚ) (d : Decimal) : Prop where
  kept : d.Kept
  le : ∀ y, Representable y → x ≤ y → d.value ≤ y
  ge : ∀ y, Representable y → y ≤ x → y ≤ d.value

/-- What arithmetic makes of the exact result `x`: a decimal that rounds it, or a fault if it is out of
bounds. -/
def Rounds (x : ℚ) : Except Fault Decimal → Prop
  | .ok d => RoundsTo x d
  | .error _ => bound ≤ x

theorem value_finite {negative : Bool} {c : Nat} (h : negative = true → c = 0) (e : Int) :
    (finite negative c e).value = scaled c e := by
  cases negative with
  | false => rfl
  | true => simp [value, h rfl, scaled_zero]

theorem Kept.value_nonneg {d : Decimal} (h : d.Kept) : 0 ≤ d.value := by
  cases d with
  | finite negative c e =>
    rw [value_finite h.1]
    exact scaled_nonneg c e
  | infinite | nan => exact h.elim

theorem value_zero : zero.value = 0 := scaled_zero 0

theorem kept_zero : zero.Kept := ⟨nofun, by decide⟩

theorem roundsTo_of_eq {x : ℚ} {d : Decimal} (hk : d.Kept) (h : d.value = x) : RoundsTo x d :=
  ⟨hk, fun _ _ hy => h ▸ hy, fun _ _ hy => h ▸ hy⟩

/-- Of one digit more, at the next exponent. -/
theorem scaled_carry (e : Int) : scaled (10 ^ precision) e = scaled (10 ^ (precision - 1)) (e + 1) :=
  scaled_mul_pow (10 ^ (precision - 1)) 1 e

/-! ## Dropping digits -/

/-- 28 digits at a lower exponent do not reach beyond the least number of 28 digits. -/
theorem scaled_le_least {b : Nat} {k e : Int} (hb : b ≤ 10 ^ precision) (h : k < e) :
    scaled b k ≤ scaled (10 ^ (precision - 1)) e := by
  have hpos : (0 : ℚ) < (10 ^ (precision - 1) : Nat) := by positivity
  calc scaled b k ≤ scaled (10 ^ precision) k := scaled_le_iff.mpr hb
    _ = scaled (10 ^ (precision - 1)) (k + 1) := scaled_carry k
    _ ≤ scaled (10 ^ (precision - 1)) e := by
        unfold scaled
        rw [mul_le_mul_iff_right₀ hpos]
        exact zpow_le_zpow_right₀ (by norm_num) h

/-- A number from which just the digits beyond 28 go has at least 28 left. -/
theorem least_mul_pow_le {c n : Nat} (hc : c ≠ 0) (hn : n = digitCount c - precision)
    (hpos : n ≠ 0) : 10 ^ (precision - 1) * 10 ^ n ≤ c := by
  have hprecision : precision = 28 := rfl
  calc 10 ^ (precision - 1) * 10 ^ n = 10 ^ (digitCount c - 1) := by
        rw [← Nat.pow_add]
        congr 1
        omega
    _ ≤ c := pow_le_of_ne_zero hc

/-- Dropping digits crosses no number of the context, as long as 28 digits are left or the exponent
becomes the lowest. -/
theorem dropDigits_rounds {c n : Nat} {e : Int} (hc : c ≠ 0) (hn : n = excessDigits c e)
    (hpos : n ≠ 0) {y : ℚ} (hy : Representable y) :
    (scaled c e ≤ y → scaled (dropDigits c n) (e + n) ≤ y) ∧
      (y ≤ scaled c e → y ≤ scaled (dropDigits c n) (e + n)) := by
  obtain ⟨b, k, hb, hk, rfl⟩ := hy
  have hten : 0 < 10 ^ n := Nat.pow_pos (by decide)
  rw [dropDigits_eq]
  rcases le_or_gt (e + n) k with hcoarse | hfine
  · -- The number is a multiple of the last digit that is kept.
    rw [scaled_eq_of_le hcoarse]
    have hscaled : scaled (b * 10 ^ (k - (e + n)).toNat) (e + n) =
        scaled (b * 10 ^ (k - (e + n)).toNat * 10 ^ n) e := (scaled_mul_pow _ _ _).symm
    rw [hscaled, scaled_le_iff, scaled_le_iff, ← hscaled, scaled_le_iff, scaled_le_iff]
    exact ⟨divHalfEven_le hten, le_divHalfEven hten⟩
  · -- The number is no more than the least one of 28 digits, and `c·10^e` is no less.
    have hcount : n = digitCount c - precision := by
      unfold excessDigits at hn
      omega
    have hleast := scaled_le_least hb hfine
    have hlarge := least_mul_pow_le hc hcount hpos
    refine ⟨fun hle => ?_, fun _ => hleast.trans (scaled_le_iff.mpr (le_divHalfEven hten hlarge))⟩
    have hexact : scaled (10 ^ (precision - 1)) (e + n) ≤ scaled c e := by
      rw [← scaled_mul_pow]
      exact scaled_le_iff.mpr hlarge
    have hsmall : c ≤ 10 ^ (precision - 1) * 10 ^ n := by
      have hall := hle.trans hleast
      rw [← scaled_mul_pow] at hall
      exact scaled_le_iff.mp hall
    calc scaled (divHalfEven c (10 ^ n)) (e + n)
        ≤ scaled (10 ^ (precision - 1)) (e + n) := scaled_le_iff.mpr (divHalfEven_le hten hsmall)
      _ ≤ scaled c e := hexact
      _ ≤ scaled b k := hle

/-- Of all digits at most as many are left as the precision has. -/
theorem dropDigits_le (c : Nat) (e : Int) : dropDigits c (excessDigits c e) ≤ 10 ^ precision := by
  have hexcess : digitCount c ≤ precision + excessDigits c e := by
    unfold excessDigits
    omega
  rw [dropDigits_eq]
  refine divHalfEven_le (Nat.pow_pos (by decide)) ?_
  rw [← Nat.pow_add]
  exact Nat.le_of_lt
    (lt_of_lt_of_le (lt_pow_digitCount c) (Nat.pow_le_pow_right (by decide) hexcess))

/-! ## Fitting -/

theorem bound_lt_of_adjusted {c : Nat} (hc : c ≠ 0) {e : Int} (h : topExponent < adjusted c e) :
    bound < scaled c e := by
  have htop : (precision : Int) < topExponent := by decide
  calc bound = (10 : ℚ) ^ (precision : Int) := by simp [bound]
    _ < 10 ^ adjusted c e := zpow_lt_zpow_right₀ (by norm_num) (htop.trans h)
    _ ≤ scaled c e := pow_adjusted_le hc e

/-- Fitting a number that has digits to drop. -/
theorem dropped_rounds {c : Nat} {e : Int} (hc : c ≠ 0) (hpos : excessDigits c e ≠ 0) :
    let n := excessDigits c e
    let c' := dropDigits c n
    Rounds (scaled c e)
      (if c' = 10 ^ precision then
        if topExponent < adjusted c' (e + n) then .error .overflow
        else .ok (.finite false (10 ^ (precision - 1)) (e + n + 1))
      else .ok (.finite false c' (e + n))) := by
  intro n c'
  have hrounds : ∀ y, Representable y → (scaled c e ≤ y → scaled c' (e + n) ≤ y) ∧
      (y ≤ scaled c e → y ≤ scaled c' (e + n)) := fun _ => dropDigits_rounds hc rfl hpos
  split
  · next hcarry =>
    rw [hcarry] at hrounds
    split
    · next hover =>
      -- Within bounds the rounded number would be as well.
      rw [hcarry] at hover
      have hlarge := bound_lt_of_adjusted (by decide) hover
      by_contra hx
      exact absurd ((hrounds _ representable_bound).1 (le_of_not_ge hx)) (not_le.mpr hlarge)
    · rw [scaled_carry] at hrounds
      exact ⟨⟨nofun, by decide⟩, fun y hy => (hrounds y hy).1, fun y hy => (hrounds y hy).2⟩
  · next hne =>
    exact ⟨⟨nofun, Nat.lt_of_le_of_ne (dropDigits_le c e) hne⟩, fun y hy => (hrounds y hy).1,
      fun y hy => (hrounds y hy).2⟩

/-- **Fitting rounds.** The exact number `c·10^e` becomes a decimal that no number of the context
separates from it, or it is out of bounds. -/
theorem fit_rounds {negative : Bool} {c : Nat} (h : negative = true → c = 0) (e : Int) :
    Rounds (scaled c e) (fit negative c e) := by
  unfold fit
  split
  · next hc =>
    subst hc
    refine roundsTo_of_eq ⟨fun _ => rfl, by decide⟩ ?_
    rw [value_finite fun _ => rfl, scaled_zero, scaled_zero]
  · next hc =>
    obtain rfl : negative = false := by
      by_contra hn
      exact hc (h (Bool.eq_true_of_not_eq_false hn))
    split
    · next hover => exact (bound_lt_of_adjusted hc hover).le
    · simp only
      split
      · next hzero =>
        have hkept : digitCount c ≤ precision := by
          unfold excessDigits at hzero
          omega
        exact roundsTo_of_eq ⟨nofun, (digitCount_le_iff (by decide)).mp hkept⟩ rfl
      · next hpos => exact dropped_rounds hc hpos

end Decimal

end Shopfront
