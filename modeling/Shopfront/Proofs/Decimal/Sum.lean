import Shopfront.Proofs.Decimal.Rounding

/-! Sums, products and amounts in hundredths. Main statements: sums and products round the exact result
(`add_rounds`, `mul_rounds`), although a summand out of reach is replaced, and an amount can be rounded
to hundredths if and only if it is less than 10^26 (`roundToCents_ok_iff`). -/

namespace Shopfront.Decimal

open Integer (digitCount digitCount_le_iff digitCount_pos lt_pow_digitCount)

/-! ## Numbers that round alike -/

/-- No number of the context lies between the two. -/
def Alike (x y : ℚ) : Prop := ∀ z, Representable z → (x ≤ z ↔ y ≤ z) ∧ (z ≤ x ↔ z ≤ y)

theorem Alike.refl (x : ℚ) : Alike x x := fun _ _ => ⟨Iff.rfl, Iff.rfl⟩

theorem Rounds.alike {x y : ℚ} {r : Except Fault Decimal} (h : Rounds y r) (hxy : Alike x y) :
    Rounds x r := by
  cases r with
  | error fault => exact (hxy bound representable_bound).2.mpr h
  | ok d =>
    exact ⟨h.kept, fun z hz hx => h.le z hz ((hxy z hz).1.mp hx),
      fun z hz hx => h.ge z hz ((hxy z hz).2.mp hx)⟩

/-- Between a number of 28 digits and the next number of the context there is at least a unit in the
last place. -/
theorem gap {c : Nat} (hc : c ≠ 0) (hkept : c < 10 ^ precision) {e : Int} {z : ℚ}
    (hz : Representable z) (h : scaled c e < z) :
    scaled c e + 10 ^ (adjusted c e + 1 - precision) ≤ z := by
  obtain ⟨b, k, hb, _, rfl⟩ := hz
  have hcount : digitCount c ≤ precision := (digitCount_le_iff (by decide)).mpr hkept
  have hpos := digitCount_pos c
  let g := adjusted c e + 1 - precision
  have hge : g ≤ e := by
    have : g = e + (digitCount c - 1 : Nat) + 1 - precision := rfl
    omega
  rcases le_or_gt g k with hcoarse | hfine
  · -- Both are multiples of the unit.
    rw [scaled_eq_of_le hge, scaled_eq_of_le hcoarse] at h ⊢
    rw [← scaled_one, ← scaled_add]
    refine scaled_le_iff.mpr (Nat.succ_le_of_lt ?_)
    exact Nat.lt_of_not_le fun hle => absurd (scaled_le_iff.mpr hle) (not_le.mpr h)
  · -- So many digits at so low an exponent cannot reach the first digit of `c·10^e`.
    exfalso
    have hlow : scaled b k ≤ scaled c e := by
      calc scaled b k ≤ scaled (10 ^ precision) k := scaled_le_iff.mpr hb
        _ = 10 ^ (k + precision) := by
            rw [← one_mul (10 ^ precision), scaled_mul_pow, scaled_one]
        _ ≤ 10 ^ adjusted c e := zpow_le_zpow_right₀ (by norm_num) (by omega)
        _ ≤ scaled c e := pow_adjusted_le hc e
    exact absurd h (not_lt.mpr hlow)

/-- What is added within the same gap rounds alike. -/
theorem alike_of_gap {c : Nat} (hc : c ≠ 0) (hkept : c < 10 ^ precision) {e : Int} {x y : ℚ}
    (hx : 0 < x) (hxg : x < 10 ^ (adjusted c e + 1 - precision))
    (hy : 0 < y) (hyg : y < 10 ^ (adjusted c e + 1 - precision)) :
    Alike (scaled c e + x) (scaled c e + y) := by
  intro z hz
  have hgap := gap (e := e) hc hkept hz
  rcases le_or_gt z (scaled c e) with hle | hlt
  · constructor
    · constructor <;> intro h <;> linarith
    · constructor <;> intro _ <;> linarith
  · have := hgap hlt
    constructor
    · constructor <;> intro _ <;> linarith
    · constructor <;> intro h <;> linarith

/-- A summand that is replaced since it is out of reach. -/
theorem nearby_alike {c : Nat} (hkept : c < 10 ^ precision) (e : Int) (c₂ : Nat) (e₂ : Int) :
    Alike (scaled c e + scaled c₂ e₂)
      (scaled c e + scaled (nearby c e c₂ e₂).1 (nearby c e c₂ e₂).2) := by
  unfold nearby
  split
  · next hfar =>
    obtain ⟨hc, _, hreach⟩ := hfar
    rcases Nat.eq_zero_or_pos c₂ with rfl | hpos
    · simp only [Nat.zero_min, scaled_zero]
      exact .refl _
    · have hone : min c₂ 1 = 1 := Nat.min_eq_right hpos
      have hlow : reach c e < adjusted c e + 1 - precision := by
        have hcount : digitCount c ≤ precision := (digitCount_le_iff (by decide)).mpr hkept
        have := digitCount_pos c
        unfold reach adjusted
        omega
      have hsmall : scaled c₂ e₂ < 10 ^ (adjusted c e + 1 - precision) := by
        calc scaled c₂ e₂ < 10 ^ (adjusted c₂ e₂ + 1) := scaled_lt_pow c₂ e₂
          _ ≤ 10 ^ (adjusted c e + 1 - precision) :=
            zpow_le_zpow_right₀ (by norm_num) (by omega)
      have hpositive : 0 < scaled c₂ e₂ := by
        unfold scaled
        positivity
      rw [hone, scaled_one]
      exact alike_of_gap hc hkept hpositive hsmall (by positivity)
        (zpow_lt_zpow_right₀ (by norm_num) hlow)
  · exact .refl _

theorem nearby_fst_eq_zero {c₂ : Nat} (h : c₂ = 0) (c : Nat) (e e₂ : Int) :
    (nearby c e c₂ e₂).1 = 0 := by
  subst h
  unfold nearby
  split <;> simp

/-- Of two summands at most the one at the lower exponent is replaced. -/
theorem nearby_of_le {e e₂ : Int} (h : e ≤ e₂) (c c₂ : Nat) : nearby c e c₂ e₂ = (c₂, e₂) := by
  unfold nearby
  rw [if_neg fun hfar => absurd hfar.2.1 (not_lt.mpr h)]

/-- Two summands and what stands for them in the sum. -/
theorem nearby_both_alike {c₁ c₂ : Nat} (h₁ : c₁ < 10 ^ precision) (h₂ : c₂ < 10 ^ precision)
    (e₁ e₂ : Int) :
    Alike (scaled c₁ e₁ + scaled c₂ e₂)
      (scaled (nearby c₂ e₂ c₁ e₁).1 (nearby c₂ e₂ c₁ e₁).2 +
        scaled (nearby c₁ e₁ c₂ e₂).1 (nearby c₁ e₁ c₂ e₂).2) := by
  rcases le_total e₁ e₂ with hle | hle
  · rw [nearby_of_le hle, add_comm (scaled c₁ e₁), add_comm (scaled _ _) (scaled c₂ e₂)]
    exact nearby_alike h₂ e₂ c₁ e₁
  · rw [nearby_of_le hle]
    exact nearby_alike h₁ e₁ c₂ e₂

/-! ## Sums -/

theorem scaled_alignedCoefficient {e low : Int} (h : low ≤ e) (c : Nat) :
    scaled (alignedCoefficient c e low) low = scaled c e := by
  unfold alignedCoefficient
  split
  · next hc => rw [hc, scaled_zero, scaled_zero]
  · exact (scaled_eq_of_le h c).symm

theorem signedCoefficient_of_kept {negative : Bool} {c : Nat} (h : negative = true → c = 0) :
    signedCoefficient negative c = c := by
  cases negative with
  | false => rfl
  | true =>
    rw [h rfl]
    rfl

/-- The sum of two numbers not below zero is fitted from their coefficients at a common exponent. -/
theorem addFinite_rounds {s₁ s₂ : Bool} {c₁ c₂ : Nat} (h₁ : s₁ = true → c₁ = 0)
    (h₂ : s₂ = true → c₂ = 0) (e₁ e₂ : Int) :
    Rounds (scaled (nearby c₂ e₂ c₁ e₁).1 (nearby c₂ e₂ c₁ e₁).2 +
        scaled (nearby c₁ e₁ c₂ e₂).1 (nearby c₁ e₁ c₂ e₂).2)
      (addFinite s₁ c₁ e₁ s₂ c₂ e₂) := by
  have hzero₁ := fun h => nearby_fst_eq_zero (h₁ h) c₂ e₂ e₁
  have hzero₂ := fun h => nearby_fst_eq_zero (h₂ h) c₁ e₁ e₂
  unfold addFinite
  generalize nearby c₂ e₂ c₁ e₁ = n₁ at hzero₁ ⊢
  generalize nearby c₁ e₁ c₂ e₂ = n₂ at hzero₂ ⊢
  obtain ⟨a₁, x₁⟩ := n₁
  obtain ⟨a₂, x₂⟩ := n₂
  let low := min x₁ x₂
  let m₁ := alignedCoefficient a₁ x₁ low
  let m₂ := alignedCoefficient a₂ x₂ low
  have hm₁ : s₁ = true → m₁ = 0 := fun h => if_pos (hzero₁ h)
  have hm₂ : s₂ = true → m₂ = 0 := fun h => if_pos (hzero₂ h)
  have hsum : signedCoefficient s₁ m₁ + signedCoefficient s₂ m₂ = ((m₁ + m₂ : Nat) : Int) := by
    rw [signedCoefficient_of_kept hm₁, signedCoefficient_of_kept hm₂]
    push_cast
    rfl
  have hvalue : scaled (m₁ + m₂) low = scaled a₁ x₁ + scaled a₂ x₂ := by
    rw [scaled_add, scaled_alignedCoefficient (min_le_left _ _),
      scaled_alignedCoefficient (min_le_right _ _)]
  change Rounds _ (fit _ (signedCoefficient s₁ m₁ + signedCoefficient s₂ m₂).natAbs low)
  rw [hsum, ← hvalue, Int.natAbs_natCast]
  refine fit_rounds (fun hn => ?_) low
  split at hn
  · next hz => exact_mod_cast hz
  · exact absurd (of_decide_eq_true hn) (not_lt.mpr (Int.natCast_nonneg _))

/-- **Sums round.** -/
theorem add_rounds {a b : Decimal} (ha : a.Kept) (hb : b.Kept) :
    Rounds (a.value + b.value) (add a b) := by
  cases a with
  | infinite | nan => exact ha.elim
  | finite s₁ c₁ e₁ =>
    cases b with
    | infinite | nan => exact hb.elim
    | finite s₂ c₂ e₂ =>
      rw [value_finite ha.1, value_finite hb.1]
      exact (addFinite_rounds ha.1 hb.1 e₁ e₂).alike (nearby_both_alike ha.2 hb.2 e₁ e₂)

/-! ## Products -/

theorem scaled_mul (c c' : Nat) (e e' : Int) : scaled (c * c') (e + e') = scaled c e * scaled c' e' := by
  unfold scaled
  rw [zpow_add₀ (by norm_num)]
  push_cast
  ring

/-- A price is finite, and only a zero carries a sign. -/
theorem exists_of_isPrice {d : Decimal} (h : d.isPrice = true) :
    ∃ negative c e, d = .finite negative c e ∧ (negative = true → c = 0) := by
  cases d with
  | finite negative c e =>
    refine ⟨negative, c, e, rfl, fun hn => ?_⟩
    subst hn
    simpa [isPrice, isFinite, isBelowZero] using h
  | infinite | nan => simp [isPrice, isFinite] at h

/-- **Products round**, of numbers not below zero, whatever their digits. -/
theorem mul_rounds {a : Decimal} (ha : a.isPrice = true) (c : Nat) (e : Int) :
    Rounds (a.value * scaled c e) (mul a (.finite false c e)) := by
  obtain ⟨negative, c₁, e₁, rfl, hzero⟩ := exists_of_isPrice ha
  have hsign : (negative != false) = true → c₁ * c = 0 := by
    intro hn
    rw [hzero (by simpa using hn), Nat.zero_mul]
  rw [value_finite hzero, ← scaled_mul]
  exact fit_rounds hsign _

/-! ## Hundredths -/

/-- An amount can be rounded to hundredths if and only if two of the 28 digits are left for them. -/
theorem roundToCents_ok_iff {d : Decimal} (h : d.Kept) :
    (∃ r, d.roundToCents = .ok r) ↔ d.value < 10 ^ 26 := by
  cases d with
  | infinite | nan => exact h.elim
  | finite negative c e =>
    rw [value_finite h.1]
    rcases eq_or_ne c 0 with rfl | hc
    · simp [roundToCents, scaled_zero]
    · have hcount := digitCount_pos c
      have hexp : (digitCount c : Int) + e + 2 = adjusted c e + 3 := by
        unfold adjusted
        omega
      have hprecision : (precision : Int) = 28 := rfl
      simp only [roundToCents, if_neg hc, hexp, hprecision]
      split
      · next hover =>
        have hlarge : (10 : ℚ) ^ 26 ≤ scaled c e := by
          calc (10 : ℚ) ^ 26 = 10 ^ (26 : Int) := by norm_num
            _ ≤ 10 ^ adjusted c e := zpow_le_zpow_right₀ (by norm_num) (by omega)
            _ ≤ scaled c e := pow_adjusted_le hc e
        simp [not_lt.mpr hlarge]
      · next hfits =>
        have hsmall : scaled c e < 10 ^ 26 := by
          calc scaled c e < 10 ^ (adjusted c e + 1) := scaled_lt_pow c e
            _ ≤ 10 ^ (26 : Int) := zpow_le_zpow_right₀ (by norm_num) (by omega)
            _ = 10 ^ 26 := by norm_num
        simp [hsmall]

end Shopfront.Decimal
