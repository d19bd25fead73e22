import Shopfront.Decimal.Basic
import Shopfront.Number.Integer

/-! Decimal numbers as text: the scientific string of General Decimal Arithmetic and its reader.
Reading is exact. Digits of any script count, underscores are passed over, and exponents are
limited to eighteen digits' range. -/

namespace Shopfront.Decimal

def maxExponent : Int := 999999999999999999
def minExponent : Int := -1999999999999999997

/-- The exponent of the first digit. -/
def adjusted (coefficient : Nat) (exponent : Int) : Int :=
  exponent + (Integer.digitCount coefficient - 1 : Nat)

/-- A number inside the limits of exact construction. -/
def inRange (coefficient : Nat) (exponent : Int) : Bool :=
  minExponent ≤ exponent && adjusted coefficient exponent ≤ maxExponent

def signChars (negative : Bool) : List Char := if negative then ['-'] else []

/-- Digits with a point so that `places` of them stand behind it. -/
def pointChars (ds : List Char) (places : Nat) : List Char :=
  if places = 0 then ds
  else if places < ds.length then
    ds.take (ds.length - places) ++ '.' :: ds.drop (ds.length - places)
  else '0' :: '.' :: List.replicate (places - ds.length) '0' ++ ds

def exponentChars (e : Int) : List Char :=
  'E' :: (if e < 0 then '-' else '+') :: Integer.digits e.natAbs

def finiteChars (coefficient : Nat) (exponent : Int) : List Char :=
  let ds := Integer.digits coefficient
  let a := adjusted coefficient exponent
  if exponent ≤ 0 ∧ -6 ≤ a then pointChars ds exponent.natAbs
  else
    match ds with
    | [d] => d :: exponentChars a
    | d :: rest => d :: '.' :: rest ++ exponentChars a
    | [] => []

def nanChars (signaling : Bool) (diagnostic : Nat) : List Char :=
  (if signaling then "sNaN" else "NaN").toList ++
    (if diagnostic = 0 then [] else Integer.digits diagnostic)

def chars : Decimal → List Char
  | .finite negative c e => signChars negative ++ finiteChars c e
  | .infinite negative => signChars negative ++ "Infinity".toList
  | .nan negative signaling n => signChars negative ++ nanChars signaling n

def text (d : Decimal) : String := String.ofList d.chars

/-! ## Reading -/

/-- Digits of any script as ASCII digits; other characters have to be ASCII. -/
def asciiChar? (c : Char) : Option Char :=
  if 0 < c.toNat ∧ c.toNat < 0x80 then some c
  else (Text.digitValue? c).map fun d => Char.ofNat (0x30 + d)

def asciiChars? (cs : List Char) : Option (List Char) :=
  ((Text.trimChars cs).filter (· ≠ '_')).mapM asciiChar?

def digitValues (cs : List Char) : List Nat := cs.map fun c => c.toNat - 0x30

/-- Everything in `cs` has to be a digit, and there has to be one. -/
def wholeNumber? (cs : List Char) : Option Nat :=
  if cs ≠ [] ∧ cs.all Char.isDigit then some (Integer.ofDigits (digitValues cs)) else none

/-- The exponent part: nothing, or a letter, an optional sign and digits. -/
def exponentPart? : List Char → Option Int
  | [] => some 0
  | c :: rest =>
    if c = 'e' ∨ c = 'E' then
      let (negative, ds) := Integer.takeSign rest
      (wholeNumber? ds).map (Integer.signed negative)
    else none

/-- A coefficient with an optional point and an optional exponent. -/
def finitePart? (cs : List Char) : Option (Nat × Int) :=
  let whole := cs.takeWhile Char.isDigit
  let rest := cs.dropWhile Char.isDigit
  let fraction := match rest with
    | '.' :: r => r.takeWhile Char.isDigit
    | _ => []
  let tail := match rest with
    | '.' :: r => r.dropWhile Char.isDigit
    | _ => rest
  if whole = [] ∧ fraction = [] then none
  else
    (exponentPart? tail).map fun e =>
      (Integer.ofDigits (digitValues (whole ++ fraction)), e - (fraction.length : Int))

/-- The diagnostic digits behind a NaN; none counts as zero. -/
def diagnostic? (cs : List Char) : Option Nat :=
  if cs = [] then some 0 else wholeNumber? cs

def nan? (negative : Bool) (cs : List Char) : Option Decimal :=
  match cs.map Char.toLower with
  | 'n' :: 'a' :: 'n' :: ds => (diagnostic? ds).map (.nan negative false)
  | 's' :: 'n' :: 'a' :: 'n' :: ds => (diagnostic? ds).map (.nan negative true)
  | _ => none

def infinity? (negative : Bool) (cs : List Char) : Option Decimal :=
  if cs.map Char.toLower = "inf".toList ∨ cs.map Char.toLower = "infinity".toList then
    some (.infinite negative)
  else none

def special? (negative : Bool) (cs : List Char) : Option Decimal :=
  (infinity? negative cs).or (nan? negative cs)

def readAscii (cs : List Char) : Except Fault Decimal :=
  let (negative, body) := Integer.takeSign cs
  match special? negative body with
  | some d => .ok d
  | none =>
    match finitePart? body with
    | none => .error .conversion
    | some (c, e) => if inRange c e then .ok (.finite negative c e) else .error .invalidOperation

def readChars (cs : List Char) : Except Fault Decimal :=
  match asciiChars? cs with
  | none => .error .conversion
  | some ascii => readAscii ascii

def read (s : String) : Except Fault Decimal := readChars s.toList

def read? (s : String) : Option Decimal := (read s).toOption

end Shopfront.Decimal
