/-! Kinds of payloads. -/

namespace Shopfront

inductive Payload.Kind where
  | null
  | bool
  | int
  | float
  | text
  | list
  | tuple
  | object
  deriving DecidableEq, Repr

/-- The name that messages show. -/
def Payload.Kind.name : Payload.Kind → String
  | null => "NoneType"
  | bool => "bool"
  | int => "int"
  | float => "float"
  | text => "str"
  | list => "list"
  | tuple => "tuple"
  | object => "dict"

end Shopfront
