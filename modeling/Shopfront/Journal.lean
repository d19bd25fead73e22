/-! The journal: what the shop reports while it works, entry by entry. Entries for debugging are left
out: they rank below those of information, and only settings that ask for that rank keep them. -/

namespace Shopfront

inductive Severity where
  | info
  | warning
  | error
  deriving DecidableEq, Repr

def Severity.label : Severity → String
  | info => "INFO"
  | warning => "WARNING"
  | error => "ERROR"

/-- The rank of a severity; settings name the least rank that is kept. -/
def Severity.rank : Severity → Nat
  | info => 20
  | warning => 30
  | error => 40

structure Entry where
  severity : Severity
  message : String
  deriving DecidableEq, Repr

namespace Entry

def info (message : String) : Entry := ⟨.info, message⟩
def warning (message : String) : Entry := ⟨.warning, message⟩
def error (message : String) : Entry := ⟨.error, message⟩

def line (e : Entry) : String := e.severity.label ++ " " ++ e.message

end Entry

abbrev Journal := List Entry

end Shopfront
