import Shopfront.Number.Binary64

/-! The text of a binary floating-point number: the fewest decimal digits that read back as the
same number, and of those the nearest. It is positional for exponents from -4 to 15 and always shows
a point or an exponent. -/

namespace Shopfront.Binary64

-- Powers are the built-in ones, whatever is imported beside this module.
attribute [local instance (high)] instPowNat

/-- A positive number `m·2^q` in quarter units `2^(q-2)`, with the ends of the interval of reals
that round to it. The lower half of the interval is shorter at a power of two. -/
structure Interval where
  low : Nat
  value : Nat
  high : Nat
  closed : Bool

def interval (m : Nat) (q : Int) : Interval where
  low := if m = 2 ^ (52 : Nat) ∧ lowExponent < q then 4 * m - 1 else 4 * m - 2
  value := 4 * m
  high := 4 * m + 2
  closed := m % 2 = 0

/-- `2^(q-2)` and `10^k` over a common denominator. -/
def gridUnits (q k : Int) : Nat × Nat :=
  (2 ^ (q - 2).toNat * 10 ^ (-k).toNat, 10 ^ k.toNat * 2 ^ (2 - q).toNat)

def Interval.reaches (i : Interval) (unit grid d : Nat) : Bool :=
  if i.closed then i.low * unit ≤ d * grid && d * grid ≤ i.high * unit
  else i.low * unit < d * grid && d * grid < i.high * unit

/-- The point of the grid `10^k` that reads back as the number, the nearer of the two around it,
the even one of a tie. -/
def onGrid? (i : Interval) (q k : Int) : Option Nat :=
  let (unit, grid) := gridUnits q k
  let d := i.value * unit / grid
  let below := i.reaches unit grid d
  let above := i.reaches unit grid (d + 1)
  if below && above then
    let left := i.value * unit - d * grid
    let right := (d + 1) * grid - i.value * unit
    if left < right ∨ (left = right ∧ d % 2 = 0) then some d else some (d + 1)
  else if below then some d
  else if above then some (d + 1)
  else none

/-- The exponent of the first decimal digit of `m·2^q`. -/
def decimalExponent (m : Nat) (q : Int) : Int :=
  let guess := Int.fdiv (((m.log2 : Int) + q) * 30103) 100000
  let atLeast (k : Int) : Bool := 10 ^ k.toNat * 2 ^ (-q).toNat ≤ m * 2 ^ q.toNat * 10 ^ (-k).toNat
  if atLeast (guess + 1) then guess + 1 else if atLeast guess then guess else guess - 1

/-- The first grid with a hit, from one digit to seventeen. -/
def searchGrids (i : Interval) (q top : Int) : List Nat → Nat × Int
  | [] => (i.value, q)
  | n :: ns =>
    let k := top - (n : Int)
    match onGrid? i q k with
    | some d => (d, k)
    | none => searchGrids i q top ns

/-- Shortest digits and their exponent: the number reads back from `d·10^k`. -/
def shortest (m : Nat) (q : Int) : Nat × Int :=
  searchGrids (interval m q) q (decimalExponent m q) (List.range 17)

def dropTrailingZeros (ds : List Char) : List Char := (ds.reverse.dropWhile (· = '0')).reverse

/-- Digits with the exponent of the first one, as positional or scientific text. -/
def layout (ds : List Char) (e : Int) : List Char :=
  if -4 ≤ e ∧ e < 16 then
    if e < 0 then '0' :: '.' :: List.replicate (e.natAbs - 1) '0' ++ ds
    else
      let n := e.toNat + 1
      if ds.length ≤ n then ds ++ List.replicate (n - ds.length) '0' ++ ['.', '0']
      else ds.take n ++ '.' :: ds.drop n
  else
    let point := match ds.drop 1 with
      | [] => []
      | rest => '.' :: rest
    let power := Integer.digits e.natAbs
    ds.take 1 ++ point ++ 'e' :: (if e < 0 then '-' else '+') ::
      (if power.length < 2 then '0' :: power else power)

def positiveChars (m : Nat) (q : Int) : List Char :=
  let (d, k) := shortest m q
  let ds := Integer.digits d
  layout (dropTrailingZeros ds) (k + (ds.length : Int) - 1)

def chars : Binary64 → List Char
  | .nan => "nan".toList
  | .infinite negative => Decimal.signChars negative ++ "inf".toList
  | .finite negative m q =>
    Decimal.signChars negative ++ (if m = 0 then "0.0".toList else positiveChars m q)

def text (x : Binary64) : String := String.ofList x.chars

end Shopfront.Binary64
