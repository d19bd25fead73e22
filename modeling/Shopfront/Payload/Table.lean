import Shopfront.Fault
import Shopfront.Payload.Basic

/-! Walks, look-ups and conversions on payloads that are taken at their word: where the payload does
not fit, there is a fault. -/

namespace Shopfront.Payload

def walk (p : Payload) : Except Fault (List Payload) :=
  match p.elements? with
  | some es => .ok es
  | none => .error (.notIterable p.kind)

/-- The value under a key that has to be there. -/
def lookUp (key : String) (p : Payload) : Except Fault Payload :=
  match p.fields? with
  | some fields =>
    match List.lookup key fields with
    | some value => .ok value
    | none => .error (.missingKey key)
  | none =>
    match p.kind with
    | .text | .list | .tuple => .error (.textKey p.kind)
    | kind => .error (.notSubscriptable kind)

/-- The payload as an integer: a fraction is cut off, a truth value counts as 0 or 1. -/
def toInteger : Payload → Except Fault Int
  | .int n => .ok n
  | .bool b => .ok (if b then 1 else 0)
  | .float x =>
    match x, x.truncate? with
    | _, some n => .ok n
    | .nan, none => .error .nanInteger
    | _, none => .error .infiniteInteger
  | .text s => (Integer.read s).mapError .numeral
  | p => .error (.notInteger p.kind)

/-- How many times a value says an amount is taken: only whole numbers and truth values do. -/
def toCount : Payload → Except Fault Int
  | .int n => .ok n
  | .bool b => .ok (if b then 1 else 0)
  | p => .error (.notACount p.kind)

/-! ## Objects from pairs -/

/-- What decides whether two keys are the same: numbers are compared by value. -/
inductive Key where
  | null
  | number (n : Int)
  | float (x : Binary64)
  | text (s : String)
  | tuple (keys : List Key)
  deriving BEq

mutual

/-- The key that a payload is, or the kind that cannot be one. -/
def key : Payload → Except Kind Key
  | .null => .ok .null
  | .bool b => .ok (.number (if b then 1 else 0))
  | .int n => .ok (.number n)
  | .float x => .ok (match x.toInt? with
    | some n => .number n
    | none => .float x)
  | .text s => .ok (.text s)
  | .tuple items => (keys items).map .tuple
  | .list _ => .error .list
  | .object _ => .error .object
  | .table _ => .error .object

def keys : List Payload → Except Kind (List Key)
  | [] => .ok []
  | p :: ps =>
    match key p with
    | .ok k => (keys ps).map (k :: ·)
    | .error kind => .error kind

end

def sameKey (p q : Payload) : Bool :=
  match p.key, q.key with
  | .ok a, .ok b => a == b
  | _, _ => false

def setRow (key value : Payload) : List (Payload × Payload) → List (Payload × Payload)
  | [] => [(key, value)]
  | (k, v) :: rest =>
    if sameKey k key then (k, value) :: rest else (k, v) :: setRow key value rest

/-- The pair in the element at an index. -/
def pairAt (index : Nat) (element : Payload) : Except Fault (Payload × Payload) :=
  match element.elements? with
  | none => .error (.elementShape index)
  | some [first, second] =>
    match first.key with
    | .ok _ => .ok (first, second)
    | .error kind => .error (.unhashable kind)
  | some es => .error (.elementLength index es.length)

def rowsFrom (index : Nat) (rows : List (Payload × Payload)) :
    List Payload → Except Fault (List (Payload × Payload))
  | [] => .ok rows
  | e :: es =>
    match pairAt index e with
    | .error fault => .error fault
    | .ok (key, value) => rowsFrom (index + 1) (setRow key value rows) es

def isTextKey : Payload × Payload → Bool
  | (.text _, _) => true
  | _ => false

/-- An object, or one made from pairs of keys and values. -/
def asObject : Payload → Except Fault Payload
  | .object fields => .ok (.object fields)
  | p =>
    match p.walk with
    | .error fault => .error fault
    | .ok es =>
      (rowsFrom 0 [] es).map fun rows =>
        if rows.all isTextKey then .object (rows.filterMap textRow?) else .table rows

end Shopfront.Payload
