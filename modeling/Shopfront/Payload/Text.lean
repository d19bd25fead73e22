import Shopfront.Payload.Basic
import Shopfront.Number.Shortest

/-! Payloads as text, in the notation of the log: `None`, `True`, quoted text, brackets. -/

namespace Shopfront.Payload

/-- The pieces with a separator between them. -/
def joinChars (sep : List Char) : List (List Char) → List Char
  | [] => []
  | [cs] => cs
  | cs :: rest => cs ++ sep ++ joinChars sep rest

mutual

/-- The payload with every text in quotes. -/
def quotedChars : Payload → List Char
  | .null => "None".toList
  | .bool b => (if b then "True" else "False").toList
  | .int n => Integer.chars n
  | .float x => x.chars
  | .text s => Text.quoteChars s.toList
  | .list items => '[' :: joinChars [',', ' '] (quotedItems items) ++ [']']
  | .tuple [item] => '(' :: quotedChars item ++ [',', ')']
  | .tuple items => '(' :: joinChars [',', ' '] (quotedItems items) ++ [')']
  | .object fields => '\x7b' :: joinChars [',', ' '] (quotedFields fields) ++ ['\x7d']
  | .table rows => '\x7b' :: joinChars [',', ' '] (quotedRows rows) ++ ['\x7d']

def quotedItems : List Payload → List (List Char)
  | [] => []
  | item :: items => quotedChars item :: quotedItems items

def quotedFields : List (String × Payload) → List (List Char)
  | [] => []
  | (key, value) :: rest =>
    (Text.quoteChars key.toList ++ ':' :: ' ' :: quotedChars value) :: quotedFields rest

def quotedRows : List (Payload × Payload) → List (List Char)
  | [] => []
  | (key, value) :: rest => (quotedChars key ++ ':' :: ' ' :: quotedChars value) :: quotedRows rest

end

def quoted (p : Payload) : String := String.ofList p.quotedChars

/-- The payload as text: a text is itself. -/
def plainChars : Payload → List Char
  | .text s => s.toList
  | p => p.quotedChars

def plain (p : Payload) : String := String.ofList p.plainChars

/-- Integers in brackets. -/
def quotedInts (ns : List Int) : String := (Payload.list (ns.map .int)).quoted

/-- Texts in brackets, each in quotes. -/
def quotedTexts (ss : List String) : String := (Payload.list (ss.map .text)).quoted

end Shopfront.Payload
