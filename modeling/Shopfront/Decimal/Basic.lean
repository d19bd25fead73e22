/-! Decimal numbers of unbounded precision: a sign, a coefficient and a power of ten. Numbers that
are equal in value but differ in exponent, such as `1.0` and `1.00`, are different values of the
type, since their texts differ. -/

namespace Shopfront

inductive Decimal where
  | finite (negative : Bool) (coefficient : Nat) (exponent : Int)
  | infinite (negative : Bool)
  | nan (negative signaling : Bool) (diagnostic : Nat)
  deriving DecidableEq, Repr, Inhabited

namespace Decimal

/-- What decimal reading and arithmetic can refuse. -/
inductive Fault where
  | conversion
  | invalidOperation
  | overflow
  deriving DecidableEq, Repr

def Fault.message : Fault → String
  | .conversion => "[<class 'decimal.ConversionSyntax'>]"
  | .invalidOperation => "[<class 'decimal.InvalidOperation'>]"
  | .overflow => "[<class 'decimal.Overflow'>]"

def zero : Decimal := .finite false 0 0

def ofInt (n : Int) : Decimal := .finite (decide (n < 0)) n.natAbs 0

def isFinite : Decimal → Bool
  | .finite .. => true
  | _ => false

def isZero : Decimal → Bool
  | .finite _ 0 _ => true
  | _ => false

/-- Less than zero; a negative zero is not. -/
def isBelowZero : Decimal → Bool
  | .finite negative c _ => negative && c != 0
  | .infinite negative => negative
  | .nan .. => false

/-- A finite number not below zero. -/
def isPrice (d : Decimal) : Bool := d.isFinite && !d.isBelowZero

/-- A zero of either sign and any exponent becomes the plain zero. -/
def plainZero (d : Decimal) : Decimal := if d.isZero then zero else d

theorem isPrice_zero : zero.isPrice = true := rfl

theorem isPrice_plainZero {d : Decimal} (h : d.isPrice = true) : d.plainZero.isPrice = true := by
  unfold plainZero
  split
  · rfl
  · exact h

end Decimal

end Shopfront
