/-! Division of naturals to the nearest quotient. The two functions differ on ties only. -/

namespace Shopfront

/-- `n / d` to the nearest natural, a tie to the even one. -/
def divHalfEven (n d : Nat) : Nat :=
  if 2 * (n % d) < d ∨ (2 * (n % d) = d ∧ n / d % 2 = 0) then n / d else n / d + 1

/-- `n / d` to the nearest natural, a tie upwards. -/
def divHalfUp (n d : Nat) : Nat :=
  if 2 * (n % d) < d then n / d else n / d + 1

theorem two_mul_divHalfUp_bounds {n d : Nat} (hd : 0 < d) :
    2 * n < 2 * (divHalfUp n d * d) + d ∧ 2 * (divHalfUp n d * d) ≤ 2 * n + d := by
  have h := Nat.div_add_mod n d
  have hr := Nat.mod_lt n hd
  have hm : n / d * d = d * (n / d) := Nat.mul_comm _ _
  unfold divHalfUp
  split
  · omega
  · rw [Nat.add_mul]
    omega

theorem divHalfEven_of_dvd {n d : Nat} (hd : 0 < d) (h : n % d = 0) : divHalfEven n d = n / d := by
  simp [divHalfEven, h, hd]

theorem divHalfUp_of_dvd {n d : Nat} (hd : 0 < d) (h : n % d = 0) : divHalfUp n d = n / d := by
  simp [divHalfUp, h, hd]

end Shopfront
