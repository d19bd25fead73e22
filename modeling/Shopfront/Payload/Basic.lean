import Shopfront.Keyed
import Shopfront.Number.Binary64
import Shopfront.Payload.Kind

/-! Payloads: the loosely shaped values that a backend sends and a caller passes in. They live at
the boundary only; the stores hold typed records. -/

namespace Shopfront

inductive Payload where
  | null
  | bool (b : Bool)
  | int (n : Int)
  | float (x : Binary64)
  | text (s : String)
  | list (items : List Payload)
  | tuple (items : List Payload)
  | object (fields : List (String × Payload))
  /-- An object some of whose keys are not texts; no decoder sends one. -/
  | table (rows : List (Payload × Payload))
  deriving Inhabited

namespace Payload

def kind : Payload → Kind
  | null => .null
  | bool _ => .bool
  | int _ => .int
  | float _ => .float
  | text _ => .text
  | list _ => .list
  | tuple _ => .tuple
  | object _ => .object
  | table _ => .object

def isNull : Payload → Bool
  | null => true
  | _ => false

/-- Null, false, a zero, and an empty text or collection. -/
def isVacant : Payload → Bool
  | null => true
  | bool b => !b
  | int n => n == 0
  | float x => x.isZero
  | text s => s == ""
  | list items => items.isEmpty
  | tuple items => items.isEmpty
  | object fields => fields.isEmpty
  | table rows => rows.isEmpty

/-- Null or the empty text: no value was sent. -/
def isBlank : Payload → Bool
  | null => true
  | text s => s == ""
  | _ => false

/-- A row of a table whose key is a text. -/
def textRow? : Payload × Payload → Option (String × Payload)
  | (text key, value) => some (key, value)
  | _ => none

/-- The fields of an object. -/
def fields? : Payload → Option (List (String × Payload))
  | object fields => some fields
  | table rows => some (rows.filterMap textRow?)
  | _ => none

/-- The items of a list or a tuple. -/
def items? : Payload → Option (List Payload)
  | list items => some items
  | tuple items => some items
  | _ => none

/-- What a walk over the payload yields: items, characters, or the keys of an object. -/
def elements? : Payload → Option (List Payload)
  | list items => some items
  | tuple items => some items
  | text s => some (s.toList.map fun c => text (String.singleton c))
  | object fields => some (fields.map fun f => text f.1)
  | table rows => some (rows.map (·.1))
  | _ => none

end Payload

/-- The fields of an object, by name. -/
abbrev Fields := List (String × Payload)

namespace Fields

/-- The value under a key, null when the key is missing. -/
def get (fields : Fields) (key : String) : Payload := (List.lookup key fields).getD .null

def has (fields : Fields) (key : String) : Bool := (List.lookup key fields).isSome

/-- The value under the first of the keys that holds more than null. -/
def firstPresent (fields : Fields) : List String → Payload
  | [] => .null
  | key :: keys => if (get fields key).isNull then firstPresent fields keys else get fields key

/-- Set a key: in its place if it is there, else at the end. -/
def set (key : String) (value : Payload) (fields : Fields) : Fields :=
  putBy (·.1) (key, value) fields

end Fields

end Shopfront
