import Shopfront.Text.Blank
import Shopfront.Text.Digit
import Shopfront.Text.Quoted

/-! Integers as text. A numeral is an optional sign and decimal digits of any script, with single
underscores allowed between digits and blanks allowed around it. Numerals of more than 4300 digits
are refused. -/

namespace Shopfront.Integer

inductive ReadError where
  | malformed (input : String)
  | tooLong (digits : Nat)
  deriving DecidableEq, Repr

def digitLimit : Nat := 4300

/-- Blanks around a numeral; the information separators are not among them. -/
def isMargin (c : Char) : Bool :=
  Text.isBlank c && !(0x1C ≤ c.toNat && c.toNat ≤ 0x1F)

def trimMargin (cs : List Char) : List Char :=
  ((cs.dropWhile isMargin).reverse.dropWhile isMargin).reverse

/-- The digits at the front, with single underscores between digits passed over, and what
follows. An underscore at the very front is passed over too. -/
def digitTail : List Char → List Nat × List Char
  | [] => ([], [])
  | c :: rest =>
    match Text.digitValue? c with
    | some d => (d :: (digitTail rest).1, (digitTail rest).2)
    | none =>
      match rest with
      | [] => ([], [c])
      | c' :: rest' =>
        match Text.digitValue? c' with
        | some d =>
          if c = '_' then (d :: (digitTail rest').1, (digitTail rest').2) else ([], c :: c' :: rest')
        | none => ([], c :: c' :: rest')

/-- The digits at the front and what follows; the first character has to be a digit. -/
def takeDigits : List Char → List Nat × List Char
  | [] => ([], [])
  | c :: rest => if (Text.digitValue? c).isSome then digitTail (c :: rest) else ([], c :: rest)

def ofDigits (ds : List Nat) : Nat := ds.foldl (fun n d => 10 * n + d) 0

/-- A sign at the front: whether it is a minus, and what follows. -/
def takeSign : List Char → Bool × List Char
  | '-' :: rest => (true, rest)
  | '+' :: rest => (false, rest)
  | cs => (false, cs)

def signed (negative : Bool) (n : Nat) : Int := if negative then -(n : Int) else n

def read (s : String) : Except ReadError Int :=
  let (negative, cs) := takeSign (trimMargin s.toList)
  let (ds, left) := takeDigits cs
  if ds.isEmpty ∨ left.head? = some '_' then .error (.malformed s)
  else if digitLimit < ds.length then .error (.tooLong ds.length)
  else if left.isEmpty then .ok (signed negative (ofDigits ds))
  else .error (.malformed s)

def read? (s : String) : Option Int := (read s).toOption

def digits (n : Nat) : List Char := Nat.toDigits 10 n

/-- The number of decimal digits; zero has one. -/
def digitCount (n : Nat) : Nat := (digits n).length

def chars : Int → List Char
  | .ofNat n => digits n
  | .negSucc n => '-' :: digits (n + 1)

def text (n : Int) : String := String.ofList (chars n)

/-- The quoted input is cut after 200 characters. -/
def ReadError.message : ReadError → String
  | .malformed input =>
    "invalid literal for int() with base 10: " ++
      String.ofList ((Text.quoteChars input.toList).take 200)
  | .tooLong n =>
    s!"Exceeds the limit ({digitLimit} digits) for integer string conversion: " ++
      s!"value has {n} digits; use sys.set_int_max_str_digits() to increase the limit"

example : read? " +1_000 " = some 1000 ∧ read? "1__0" = none ∧ read? "_1" = none ∧
    read? "-٧" = some (-7) := by decide +kernel

end Shopfront.Integer
