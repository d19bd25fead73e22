import Shopfront.Decimal.Text
import Shopfront.Number.Rounding

/-! Decimal arithmetic in the default context of General Decimal Arithmetic: 28 digits, a tie goes
to the even neighbour, exponents between -999999 and 999999. An invalid operation and an overflow
are faults; an underflow rounds. -/

namespace Shopfront.Decimal

-- Powers are the built-in ones, whatever is imported beside this module.
attribute [local instance (high)] instPowNat

def precision : Nat := 28
def topExponent : Int := 999999
def bottomExponent : Int := -999999

/-- The exponent of the last digit of the smallest subnormal number. -/
def tinyExponent : Int := bottomExponent - (precision - 1 : Nat)

/-- `c` without its last `n` digits, to the nearest, ties to even. -/
def dropDigits (c n : Nat) : Nat :=
  if Integer.digitCount c < n then 0 else divHalfEven c (10 ^ n)

/-- How many digits have to go: those beyond the precision, or those below the smallest exponent. -/
def excessDigits (c : Nat) (e : Int) : Nat :=
  max (Integer.digitCount c - precision) (tinyExponent - e).toNat

def clampExponent (e : Int) : Int := max tinyExponent (min topExponent e)

/-- The exact number `±c·10^e` fitted into the context. -/
def fit (negative : Bool) (c : Nat) (e : Int) : Except Fault Decimal :=
  if c = 0 then .ok (.finite negative 0 (clampExponent e))
  else if topExponent < adjusted c e then .error .overflow
  else
    let n := excessDigits c e
    if n = 0 then .ok (.finite negative c e)
    else
      let c' := dropDigits c n
      if c' = 10 ^ precision then
        if topExponent < adjusted c' (e + n) then .error .overflow
        else .ok (.finite negative (10 ^ (precision - 1)) (e + n + 1))
      else .ok (.finite negative c' (e + n))

/-- A NaN among the operands decides the result: a signaling one is a fault, a quiet one is kept
with as many diagnostic digits as the precision has. -/
def nanOf : Decimal → Decimal → Option (Except Fault Decimal)
  | .nan _ true _, _ => some (.error .invalidOperation)
  | _, .nan _ true _ => some (.error .invalidOperation)
  | .nan negative false n, _ => some (.ok (.nan negative false (n % 10 ^ precision)))
  | _, .nan negative false n => some (.ok (.nan negative false (n % 10 ^ precision)))
  | _, _ => none

def mulNumbers : Decimal → Decimal → Except Fault Decimal
  | .finite s₁ c₁ e₁, .finite s₂ c₂ e₂ => fit (s₁ != s₂) (c₁ * c₂) (e₁ + e₂)
  | .infinite s₁, .finite s₂ c₂ _ =>
    if c₂ = 0 then .error .invalidOperation else .ok (.infinite (s₁ != s₂))
  | .finite s₁ c₁ _, .infinite s₂ =>
    if c₁ = 0 then .error .invalidOperation else .ok (.infinite (s₁ != s₂))
  | .infinite s₁, .infinite s₂ => .ok (.infinite (s₁ != s₂))
  | a, _ => .ok a

def mul (a b : Decimal) : Except Fault Decimal := (nanOf a b).getD (mulNumbers a b)

/-- The signed coefficient. -/
def signedCoefficient (negative : Bool) (c : Nat) : Int := Integer.signed negative c

/-- Below this exponent a summand is too small to reach the digits of `c·10^e` that are kept. -/
def reach (c : Nat) (e : Int) : Int :=
  e - 1 + min 0 ((Integer.digitCount c : Int) - precision - 1)

/-- A summand out of reach of a larger one is replaced by the smallest unit within reach, which
rounds alike and keeps the coefficients short. -/
def nearby (c : Nat) (e : Int) (c₂ : Nat) (e₂ : Int) : Nat × Int :=
  if c ≠ 0 ∧ e₂ < e ∧ adjusted c₂ e₂ < reach c e then (min c₂ 1, reach c e) else (c₂, e₂)

/-- The coefficient of `c·10^e` at the exponent `low`; zero stays zero at any exponent. -/
def alignedCoefficient (c : Nat) (e low : Int) : Nat :=
  if c = 0 then 0 else c * 10 ^ (e - low).toNat

/-- The sum of two finite numbers; an exact zero is negative only if both summands are. -/
def addFinite (s₁ : Bool) (c₁ : Nat) (e₁ : Int) (s₂ : Bool) (c₂ : Nat) (e₂ : Int) :
    Except Fault Decimal :=
  let (a₁, x₁) := nearby c₂ e₂ c₁ e₁
  let (a₂, x₂) := nearby c₁ e₁ c₂ e₂
  let low := min x₁ x₂
  let sum := signedCoefficient s₁ (alignedCoefficient a₁ x₁ low) +
    signedCoefficient s₂ (alignedCoefficient a₂ x₂ low)
  fit (if sum = 0 then s₁ && s₂ else decide (sum < 0)) sum.natAbs low

def addNumbers : Decimal → Decimal → Except Fault Decimal
  | .finite s₁ c₁ e₁, .finite s₂ c₂ e₂ => addFinite s₁ c₁ e₁ s₂ c₂ e₂
  | .infinite s₁, .infinite s₂ =>
    if s₁ = s₂ then .ok (.infinite s₁) else .error .invalidOperation
  | .infinite s, _ => .ok (.infinite s)
  | _, .infinite s => .ok (.infinite s)
  | a, _ => .ok a

def add (a b : Decimal) : Except Fault Decimal := (nanOf a b).getD (addNumbers a b)

/-- The coefficient of `c·10^e` at two decimal places, by a division to the nearest. -/
def hundredths (divide : Nat → Nat → Nat) (c : Nat) (e : Int) : Nat :=
  if -2 ≤ e then c * 10 ^ (e + 2).toNat
  else if (Integer.digitCount c : Int) + e + 2 < 0 then 0
  else divide c (10 ^ (-2 - e).toNat)

/-- Rounded to hundredths, a tie away from zero; a fault if the result needs too many digits. -/
def roundToCents : Decimal → Except Fault Decimal
  | .finite negative c e =>
    if c = 0 then .ok (.finite negative 0 (-2))
    else if (precision : Int) < Integer.digitCount c + e + 2 then .error .invalidOperation
    else .ok (.finite negative (hundredths divHalfUp c e) (-2))
  | .infinite _ => .error .invalidOperation
  | .nan _ true _ => .error .invalidOperation
  | .nan negative false n => .ok (.nan negative false (n % 10 ^ precision))

end Shopfront.Decimal
