import Shopfront.Payload.Text

/-! Identifiers in payloads. An id is an integer and may come as an integer, as a floating-point
number without a fraction, or as the text of an integer. -/

namespace Shopfront

/-- The integer that a payload stands for; a truth value stands for none. -/
def Payload.id? : Payload → Option Int
  | .int n => some n
  | .float x => x.toInt?
  | .text s => Integer.read? (Text.trim s)
  | _ => none

/-- A reference that a service gave out: a number, or any other text. -/
inductive Reference where
  | number (n : Int)
  | text (s : String)
  deriving DecidableEq, Repr

namespace Reference

def plain : Reference → String
  | number n => Integer.text n
  | text s => s

/-- The reference as it is sent back. -/
def payload : Reference → Payload
  | number n => .int n
  | text s => .text s

theorem plain_payload (r : Reference) : r.payload.plain = r.plain := by
  cases r with
  | number n => rfl
  | text s => exact String.ofList_toList

theorem payload_inj {r r' : Reference} (h : r.payload = r'.payload) : r = r' := by
  cases r <;> cases r' <;> cases h <;> rfl

/-- The reference in a payload, if a value was sent: a number where the payload stands for one,
its text otherwise. -/
def ofPayload? (p : Payload) : Option Reference :=
  if p.isBlank then none
  else
    match p.id? with
    | some n => some (number n)
    | none => some (text p.plain)

end Reference

end Shopfront
