import Shopfront.Decimal.Text
import Shopfront.Number.Rounding

/-! Binary floating-point numbers of 64 bits, as exact values. A finite number is a sign, a
significand below 2^53 and a power of two not below 2^-1074; a significand below 2^52 goes with the
smallest exponent only. Every operation computes exactly and rounds once, ties to even. -/

namespace Shopfront

inductive Binary64 where
  | nan
  | infinite (negative : Bool)
  | finite (negative : Bool) (significand : Nat) (exponent : Int)
  deriving DecidableEq, Repr, Inhabited

namespace Binary64

-- Powers are the built-in ones, whatever is imported beside this module.
attribute [local instance (high)] instPowNat

def lowExponent : Int := -1074
def highExponent : Int := 971

/-- A rounded significand at its exponent; a carry moves the exponent up. -/
def pack (negative : Bool) (m : Nat) (e : Int) : Binary64 :=
  let (m, e) := if m = 2 ^ (53 : Nat) then (2 ^ (52 : Nat), e + 1) else (m, e)
  if highExponent < e then .infinite negative else .finite negative m e

/-- `n / d` divided by `2^e`, as a ratio of naturals. -/
def scaleDown (n d : Nat) (e : Int) : Nat × Nat :=
  if e < 0 then (n * 2 ^ e.natAbs, d) else (n, d * 2 ^ e.toNat)

/-- The number nearest to `n / d`. -/
def ofRatio (negative : Bool) (n d : Nat) : Binary64 :=
  if n = 0 then .finite negative 0 lowExponent
  else
    let guess : Int := (n.log2 : Int) - (d.log2 : Int) - 52
    let (gn, gd) := scaleDown n d guess
    let e := max lowExponent (if gn / gd < 2 ^ (52 : Nat) then guess - 1 else guess)
    let (sn, sd) := scaleDown n d e
    pack negative (divHalfEven sn sd) e

/-- The number nearest to `±c·10^e`. Exponents far outside the range are settled by the exponent
alone. -/
def ofScientific (negative : Bool) (c : Nat) (e : Int) : Binary64 :=
  if c = 0 then .finite negative 0 lowExponent
  else if 400 < Decimal.adjusted c e then .infinite negative
  else if Decimal.adjusted c e < -400 then .finite negative 0 lowExponent
  else if 0 ≤ e then ofRatio negative (c * 10 ^ e.toNat) 1
  else ofRatio negative c (10 ^ e.natAbs)

def ofDecimal : Decimal → Binary64
  | .finite negative c e => ofScientific negative c e
  | .infinite negative => .infinite negative
  | .nan .. => .nan

def read? (s : String) : Option Binary64 := (Decimal.read? s).map ofDecimal

def ofInt (n : Int) : Binary64 := ofRatio (decide (n < 0)) n.natAbs 1

/-- The number nearest to `i·2^e`; `negative` is the sign of a zero. -/
def ofDyadic (negative : Bool) (i : Int) (e : Int) : Binary64 :=
  let negative := if i = 0 then negative else decide (i < 0)
  if e < 0 then ofRatio negative i.natAbs (2 ^ e.natAbs)
  else ofRatio negative (i.natAbs * 2 ^ e.toNat) 1

def mul : Binary64 → Binary64 → Binary64
  | .finite s₁ m₁ e₁, .finite s₂ m₂ e₂ =>
    ofDyadic (s₁ != s₂) (Integer.signed (s₁ != s₂) (m₁ * m₂)) (e₁ + e₂)
  | .nan, _ => .nan
  | _, .nan => .nan
  | .infinite s₁, .infinite s₂ => .infinite (s₁ != s₂)
  | .infinite s₁, .finite s₂ m _ => if m = 0 then .nan else .infinite (s₁ != s₂)
  | .finite s₁ m _, .infinite s₂ => if m = 0 then .nan else .infinite (s₁ != s₂)

def add : Binary64 → Binary64 → Binary64
  | .finite s₁ m₁ e₁, .finite s₂ m₂ e₂ =>
    let low := min e₁ e₂
    ofDyadic (s₁ && s₂)
      (Integer.signed s₁ (m₁ * 2 ^ (e₁ - low).toNat) +
        Integer.signed s₂ (m₂ * 2 ^ (e₂ - low).toNat)) low
  | .nan, _ => .nan
  | _, .nan => .nan
  | .infinite s₁, .infinite s₂ => if s₁ = s₂ then .infinite s₁ else .nan
  | .infinite s, .finite .. => .infinite s
  | .finite .., .infinite s => .infinite s

/-- The number as an integer, if it is one. -/
def toInt? : Binary64 → Option Int
  | .finite negative m e =>
    if 0 ≤ e then some (Integer.signed negative (m * 2 ^ e.toNat))
    else if m % 2 ^ e.natAbs = 0 then some (Integer.signed negative (m / 2 ^ e.natAbs))
    else none
  | _ => none

/-- The integer part of a finite number, towards zero. -/
def truncate? : Binary64 → Option Int
  | .finite negative m e =>
    if 0 ≤ e then some (Integer.signed negative (m * 2 ^ e.toNat))
    else some (Integer.signed negative (m / 2 ^ e.natAbs))
  | _ => none

def isZero : Binary64 → Bool
  | .finite _ 0 _ => true
  | _ => false

end Binary64

end Shopfront
