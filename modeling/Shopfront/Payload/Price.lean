import Shopfront.Payload.Text
import Shopfront.Decimal.Text

/-! Prices in payloads: finite decimals not below zero, kept digit for digit. -/

namespace Shopfront

/-- The price that a text states, blanks around it aside. -/
def priceOfChars? (cs : List Char) : Option Decimal :=
  match Decimal.readChars (Text.trimChars cs) with
  | .ok d => if d.isPrice then some d else none
  | .error _ => none

/-- An integer of more digits than a numeral may have is no price. -/
def priceOfInt? (n : Int) : Option Decimal :=
  if Integer.digitLimit < Integer.digitCount n.natAbs then none
  else priceOfChars? (Integer.chars n)

def Payload.price? : Payload → Option Decimal
  | .null => none
  | .bool _ => none
  | .int n => priceOfInt? n
  | p => priceOfChars? p.plainChars

/-- The price that a decimal is: the one that its text states. -/
def Decimal.price? (d : Decimal) : Option Decimal := priceOfChars? d.chars

/-- The price, or a plain zero where there is none or it is zero. -/
def Payload.priceOrZero (p : Payload) : Decimal := (p.price?.map Decimal.plainZero).getD .zero

theorem isPrice_of_priceOfChars? {cs : List Char} {d : Decimal} (h : priceOfChars? cs = some d) :
    d.isPrice = true := by
  unfold priceOfChars? at h
  split at h
  · split at h
    · rename_i hp
      exact Option.some.inj h ▸ hp
    · simp at h
  · simp at h

theorem isPrice_of_priceOfInt? {n : Int} {d : Decimal} (h : priceOfInt? n = some d) :
    d.isPrice = true := by
  unfold priceOfInt? at h
  split at h
  · cases h
  · exact isPrice_of_priceOfChars? h

theorem isPrice_of_price? {p : Payload} {d : Decimal} (h : p.price? = some d) :
    d.isPrice = true := by
  unfold Payload.price? at h
  split at h
  · cases h
  · cases h
  · exact isPrice_of_priceOfInt? h
  · exact isPrice_of_priceOfChars? h

end Shopfront
