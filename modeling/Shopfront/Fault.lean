import Shopfront.Decimal.Basic
import Shopfront.Number.Integer
import Shopfront.Payload.Kind

/-! Faults: what ends an operation before it has an answer. A failed call of the backend is not
among them; the stores report those and go on. -/

namespace Shopfront

inductive Fault where
  | arithmetic (cause : Decimal.Fault)
  | numeral (cause : Integer.ReadError)
  /-- A number has more digits than can be written. -/
  | tooManyDigits
  | outOfMemory
  | notIterable (kind : Payload.Kind)
  | notSubscriptable (kind : Payload.Kind)
  /-- A value that holds no fields was asked for one. -/
  | textKey (kind : Payload.Kind)
  | missingKey (key : String)
  | notText (kind : Payload.Kind)
  | notInteger (kind : Payload.Kind)
  /-- An amount cannot be taken so many times. -/
  | notACount (kind : Payload.Kind)
  | nanInteger
  | infiniteInteger
  | hugeInteger
  | unhashable (kind : Payload.Kind)
  | elementShape (index : Nat)
  | elementLength (index length : Nat)
  | unknownChoice (setting : String) (choices : List String)
  | unknownLevel (name : String)
  /-- What stands for a level is neither a number nor a name. -/
  | notALevel (shown : String)
  | invalidJson
  | invalidUtf8
  | notAnObject (path : String)
  | missingFile (path : String)
  | isDirectory (path : String)
  | outside (name message : String)
  deriving DecidableEq, Repr

namespace Fault

def quoteWord (s : String) : String := "'" ++ s ++ "'"

/-- Choices in parentheses, each in quotes. -/
def choiceList (choices : List String) : String :=
  "(" ++ ", ".intercalate (choices.map quoteWord) ++ ")"

def message : Fault → String
  | arithmetic cause => cause.message
  | numeral cause => cause.message
  | tooManyDigits => "format specification exceeds internal limits of _decimal"
  | outOfMemory => ""
  | notIterable kind => quoteWord kind.name ++ " object is not iterable"
  | notSubscriptable kind => quoteWord kind.name ++ " object is not subscriptable"
  | textKey .text => "string indices must be integers, not 'str'"
  | textKey kind => kind.name ++ " indices must be integers or slices, not str"
  | missingKey key => Text.quote key
  | notText kind => quoteWord kind.name ++ " object has no attribute 'strip'"
  | notInteger kind =>
    "int() argument must be a string, a bytes-like object or a real number, not " ++
      quoteWord kind.name
  | notACount .text | notACount .list | notACount .tuple =>
    "can't multiply sequence by non-int of type 'decimal.Decimal'"
  | notACount kind =>
    "unsupported operand type(s) for *: 'decimal.Decimal' and " ++ quoteWord kind.name
  | nanInteger => "cannot convert float NaN to integer"
  | infiniteInteger => "cannot convert float infinity to integer"
  | hugeInteger => "int too large to convert to float"
  | unhashable kind => "unhashable type: " ++ quoteWord kind.name
  | elementShape i => s!"cannot convert dictionary update sequence element #{i} to a sequence"
  | elementLength i n =>
    s!"dictionary update sequence element #{i} has length {n}; 2 is required"
  | unknownChoice setting choices => setting ++ " must be one of " ++ choiceList choices
  | unknownLevel name => "Unknown level: " ++ Text.quote name
  | notALevel shown => "Level not an integer or a valid string: " ++ shown
  | invalidJson => "<JSONDecodeError>"
  | invalidUtf8 => "<UnicodeDecodeError>"
  | notAnObject path => s!"Mock data at {path} must be a JSON object"
  | missingFile path => "[Errno 2] No such file or directory: " ++ Text.quote path
  | isDirectory path => "[Errno 21] Is a directory: " ++ Text.quote path
  | outside _ message => message

end Fault

end Shopfront
