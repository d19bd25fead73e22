import Shopfront.Decimal.Arithmetic
import Shopfront.Fault

/-! Amounts of money as text: two places, a tie to the even neighbour. The number of digits is not
limited by the precision, only by what a text can hold. -/

namespace Shopfront.Decimal

/-- The most digits that a number can have. -/
def digitLimit : Int := 1000000000000000000

/-- The most digits that there is room for in a text. -/
def roomLimit : Int := 10000000000

/-- The digits of `c·10^e` up to the second place; a zero has one. -/
def centDigits (c : Nat) (e : Int) : List Char :=
  if c = 0 then ['0']
  else if -2 ≤ e then Integer.digits c ++ List.replicate (e + 2).toNat '0'
  else Integer.digits (hundredths divHalfEven c e)

/-- The number of digits of `c·10^e` up to the second place. -/
def centDigitCount (c : Nat) (e : Int) : Int :=
  if c = 0 then 1 else Integer.digitCount c + e + 2

def moneyChars : Decimal → List Char
  | .finite negative c e => signChars negative ++ pointChars (centDigits c e) 2
  | d => d.chars

/-- Why an amount has no text, if it has none. -/
def moneyFault? : Decimal → Option Shopfront.Fault
  | .finite _ c e =>
    if digitLimit < centDigitCount c e then some .tooManyDigits
    else if roomLimit < centDigitCount c e then some .outOfMemory
    else none
  | _ => none

def money (d : Decimal) : Except Shopfront.Fault String :=
  match d.moneyFault? with
  | some fault => .error fault
  | none => .ok (String.ofList d.moneyChars)

end Shopfront.Decimal
