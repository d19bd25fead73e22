import Shopfront.Fault
import Shopfront.Payload.Basic

/-! Reading JSON texts. Besides the standard the reader takes `NaN`, `Infinity` and `-Infinity`, keeps
integers of up to 4300 digits exact, and lets the last of several equal keys win. A byte order mark
in front is refused. -/

namespace Shopfront.Json

/-- Why a text is refused. -/
inductive Refusal where
  | malformed
  | longInteger (digits : Nat)
  deriving DecidableEq, Repr

def Refusal.fault : Refusal → Fault
  | malformed => .invalidJson
  | longInteger digits => .numeral (.tooLong digits)

/-- A value read, and the text behind it. -/
abbrev Read (α : Type) := Except Refusal (α × List Char)

def isSpace (c : Char) : Bool := c = ' ' || c = '\t' || c = '\n' || c = '\r'

def skipSpace (cs : List Char) : List Char := cs.dropWhile isSpace

/-! ## Texts -/

def hexValue? (c : Char) : Option Nat :=
  if '0' ≤ c ∧ c ≤ '9' then some (c.toNat - 0x30)
  else if 'a' ≤ c ∧ c ≤ 'f' then some (c.toNat - 0x57)
  else if 'A' ≤ c ∧ c ≤ 'F' then some (c.toNat - 0x37)
  else none

def hex4? (a b c d : Char) : Option Nat := do
  return ((← hexValue? a) * 16 + (← hexValue? b)) * 256 + (← hexValue? c) * 16 + (← hexValue? d)

def escapes : List (Char × Char) :=
  [('\x22', '\x22'), ('\\', '\\'), ('/', '/'), ('b', '\x08'), ('f', '\x0c'), ('n', '\n'),
    ('r', '\r'), ('t', '\t')]

def isHighSurrogate (n : Nat) : Bool := 0xD800 ≤ n && n < 0xDC00
def isLowSurrogate (n : Nat) : Bool := 0xDC00 ≤ n && n < 0xE000

/-- The code points up to the closing quote, surrogates still apart. -/
def readUnits : List Char → Read (List Nat)
  | [] => .error .malformed
  | '\x22' :: rest => .ok ([], rest)
  | '\\' :: 'u' :: a :: b :: c :: d :: rest =>
    match hex4? a b c d with
    | none => .error .malformed
    | some n => (readUnits rest).map fun (ns, left) => (n :: ns, left)
  | '\\' :: e :: rest =>
    match escapes.lookup e with
    | some c => (readUnits rest).map fun (ns, left) => (c.toNat :: ns, left)
    | none => .error .malformed
  | c :: rest =>
    if c.toNat < 0x20 then .error .malformed
    else (readUnits rest).map fun (ns, left) => (c.toNat :: ns, left)

/-- A high surrogate and a low one behind it are one character. -/
def joinSurrogates : List Nat → List Char
  | [] => []
  | n :: ns =>
    match ns with
    | [] => [Char.ofNat n]
    | n' :: ns' =>
      if isHighSurrogate n && isLowSurrogate n' then
        Char.ofNat (0x10000 + (n - 0xD800) * 0x400 + (n' - 0xDC00)) :: joinSurrogates ns'
      else Char.ofNat n :: joinSurrogates (n' :: ns')

def readText (cs : List Char) : Read String :=
  (readUnits cs).map fun (ns, left) => (String.ofList (joinSurrogates ns), left)

/-! ## Numbers -/

/-- The digits behind a point, if there is a point with a digit behind it. -/
def takeFraction : List Char → Option (List Char) × List Char
  | '.' :: d :: rest =>
    if d.isDigit then
      (some ((d :: rest).takeWhile Char.isDigit), (d :: rest).dropWhile Char.isDigit)
    else (none, '.' :: d :: rest)
  | cs => (none, cs)

/-- The exponent behind an `e`, if there is a digit in it. -/
def takeExponent (cs : List Char) : Option Int × List Char :=
  match cs with
  | e :: rest =>
    if e = 'e' ∨ e = 'E' then
      let (negative, ds) := Integer.takeSign rest
      match Decimal.wholeNumber? (ds.takeWhile Char.isDigit) with
      | some n => (some (Integer.signed negative n), ds.dropWhile Char.isDigit)
      | none => (none, cs)
    else (none, cs)
  | [] => (none, cs)

/-- The integer part: a lone zero, or digits that do not start with zero. -/
def takeWhole : List Char → List Char × List Char
  | '0' :: rest => (['0'], rest)
  | cs => (cs.takeWhile Char.isDigit, cs.dropWhile Char.isDigit)

/-- A number whose sign has been read. -/
def readNumber (negative : Bool) (cs : List Char) : Read Payload :=
  let (whole, cs) := takeWhole cs
  if whole = [] then .error .malformed
  else
    let (fraction, cs) := takeFraction cs
    let (exponent, cs) := takeExponent cs
    match fraction, exponent with
    | none, none =>
      if Integer.digitLimit < whole.length then .error (.longInteger whole.length)
      else
        .ok (.int (Integer.signed negative (Integer.ofDigits (Decimal.digitValues whole))), cs)
    | _, _ =>
      let fraction := fraction.getD []
      .ok (.float (Binary64.ofScientific negative
        (Integer.ofDigits (Decimal.digitValues (whole ++ fraction)))
        (exponent.getD 0 - (fraction.length : Int))), cs)

/-! ## Values -/

/-- The text behind a word, if it starts with the word. -/
def dropWord? (word : String) (cs : List Char) : Option (List Char) :=
  if word.toList.isPrefixOf cs then some (cs.drop word.length) else none

def words : List (String × Payload) :=
  [("null", .null), ("true", .bool true), ("false", .bool false), ("NaN", .float .nan),
    ("Infinity", .float (.infinite false)), ("-Infinity", .float (.infinite true))]

def readWord? (cs : List Char) : Option (Payload × List Char) :=
  words.findSome? fun (word, value) => (dropWord? word cs).map fun rest => (value, rest)

/-- A key and the colon behind it. -/
def readKey : List Char → Read String
  | '\x22' :: rest =>
    match readText rest with
    | .error refusal => .error refusal
    | .ok (key, rest) =>
      match skipSpace rest with
      | ':' :: rest => .ok (key, skipSpace rest)
      | _ => .error .malformed
  | _ => .error .malformed

mutual

/-- A value at the front. Each nested value is behind at least one character more, so the length of
the text is fuel enough. -/
def readValue : Nat → List Char → Read Payload
  | 0, _ => .error .malformed
  | fuel + 1, cs =>
    match cs with
    | '\x22' :: rest => (readText rest).map fun (s, left) => (.text s, left)
    | '[' :: rest =>
      match skipSpace rest with
      | ']' :: left => .ok (.list [], left)
      | rest => (readItems fuel rest).map fun (items, left) => (.list items, left)
    | '\x7b' :: rest =>
      match skipSpace rest with
      | '\x7d' :: left => .ok (.object [], left)
      | rest => (readFields fuel [] rest).map fun (fields, left) => (.object fields, left)
    | _ =>
      match readWord? cs with
      | some result => .ok result
      | none =>
        match cs with
        | '-' :: rest => readNumber true rest
        | _ => readNumber false cs

/-- The items up to the closing bracket. -/
def readItems : Nat → List Char → Read (List Payload)
  | 0, _ => .error .malformed
  | fuel + 1, cs =>
    match readValue fuel cs with
    | .error refusal => .error refusal
    | .ok (item, rest) =>
      match skipSpace rest with
      | ']' :: left => .ok ([item], left)
      | ',' :: rest =>
        (readItems fuel (skipSpace rest)).map fun (items, left) => (item :: items, left)
      | _ => .error .malformed

/-- The fields up to the closing brace, added to those before. -/
def readFields : Nat → Fields → List Char → Read Fields
  | 0, _, _ => .error .malformed
  | fuel + 1, fields, cs =>
    match readKey cs with
    | .error refusal => .error refusal
    | .ok (key, rest) =>
      match readValue fuel rest with
      | .error refusal => .error refusal
      | .ok (value, rest) =>
        let fields := Fields.set key value fields
        match skipSpace rest with
        | '\x7d' :: left => .ok (fields, left)
        | ',' :: rest => readFields fuel fields (skipSpace rest)
        | _ => .error .malformed

end

/-- The one value of a text, blanks around it aside. -/
def read (s : String) : Except Refusal Payload := do
  let cs := s.toList
  let (value, rest) ← readValue (cs.length + 1) (skipSpace cs)
  if (skipSpace rest).isEmpty then return value else .error .malformed

end Shopfront.Json
