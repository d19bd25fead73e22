/-! Lists of items with keys, in the order in which the keys first came. -/

namespace Shopfront

variable {α κ : Type} [DecidableEq κ]

/-- The item in the place of the first one with its key, or at the end. -/
def putBy (key : α → κ) (item : α) : List α → List α
  | [] => [item]
  | x :: xs => if key x = key item then item :: xs else x :: putBy key item xs

theorem map_putBy (key : α → κ) (item : α) (xs : List α) :
    (putBy key item xs).map key =
      if key item ∈ xs.map key then xs.map key else xs.map key ++ [key item] := by
  induction xs with
  | nil => rfl
  | cons x xs ih =>
    by_cases h : key x = key item
    · simp [putBy, h]
    · have h' : ¬key item = key x := fun e => h e.symm
      simp only [putBy, h, if_false, List.map_cons, ih, List.mem_cons, h', false_or]
      split <;> rfl

theorem find?_putBy (key : α → κ) (item : α) (xs : List α) (k : κ) :
    (putBy key item xs).find? (key · == k) =
      if key item = k then some item else xs.find? (key · == k) := by
  induction xs with
  | nil => by_cases hk : key item = k <;> simp [putBy, hk]
  | cons x xs ih =>
    by_cases h : key x = key item
    · by_cases hk : key item = k
      · simp [putBy, h, hk]
      · have hf : (key item == k) = false := beq_eq_false_iff_ne.mpr hk
        simp [putBy, h, hk, hf]
    · by_cases hk : key item = k
      · have hx : ¬key x = k := fun e => h (e.trans hk.symm)
        have hf : (key x == k) = false := beq_eq_false_iff_ne.mpr hx
        simp [putBy, hk, hx, hf, ih]
      · simp [putBy, h, hk, List.find?_cons, ih]

end Shopfront
