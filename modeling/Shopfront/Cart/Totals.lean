import Shopfront.Cart.Line
import Shopfront.Decimal.Arithmetic
import Shopfront.Fault

/-! Totals of a cart, always worked out from the lines. -/

namespace Shopfront.Cart

structure Totals where
  subtotal : Decimal
  tax : Decimal
  deriving DecidableEq, Repr

def defaultTaxRate : Decimal := .finite false 5 (-2)

/-- The running sum with one more line. -/
def addLine (total : Decimal) (line : Line) : Except Decimal.Fault Decimal := do
  let amount ← Decimal.mul line.price (Decimal.ofInt line.quantity)
  Decimal.add total amount

def subtotal (lines : List Line) : Except Decimal.Fault Decimal := lines.foldlM addLine .zero

/-- The tax on an amount, in hundredths, a tie away from zero. -/
def tax (amount rate : Decimal) : Except Decimal.Fault Decimal := do
  let exact ← Decimal.mul amount rate
  exact.roundToCents

def totals (lines : List Line) (rate : Decimal) : Except Decimal.Fault Totals := do
  let sum ← subtotal lines
  let owed ← tax sum rate
  return ⟨sum, owed⟩

/-! ## Lines as they are read -/

/-- The running sum with one more line, if that could be read. -/
def addReading (total : Decimal) (reading : Except Fault Line) : Except Fault Decimal := do
  (addLine total (← reading)).mapError .arithmetic

/-- The subtotal of lines as they are read; the first that could not be read ends the sum. -/
def subtotalOf (readings : List (Except Fault Line)) : Except Fault Decimal :=
  readings.foldlM addReading .zero

def totalsOf (readings : List (Except Fault Line)) (rate : Decimal) : Except Fault Totals := do
  let sum ← subtotalOf readings
  let owed ← (tax sum rate).mapError .arithmetic
  return ⟨sum, owed⟩

theorem foldlM_addReading (lines : List Line) (total : Decimal) :
    (lines.map .ok).foldlM addReading total =
      (lines.foldlM addLine total).mapError .arithmetic := by
  induction lines generalizing total with
  | nil => rfl
  | cons line lines ih =>
    have step : addReading total (.ok line) = (addLine total line).mapError .arithmetic := rfl
    rw [List.map_cons, List.foldlM_cons, List.foldlM_cons, step]
    cases addLine total line with
    | error cause => rfl
    | ok next => exact ih next

/-- Where every line could be read the subtotal is that of the lines. -/
theorem subtotalOf_ok (lines : List Line) :
    subtotalOf (lines.map .ok) = (subtotal lines).mapError .arithmetic :=
  foldlM_addReading lines .zero

end Shopfront.Cart
