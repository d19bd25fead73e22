import Shopfront.Fault
import Shopfront.Journal
import Shopfront.Payload.Basic
import Shopfront.Text.Utf8

/-! The session: the credential of the user, if there is one. -/

namespace Shopfront

structure Session where
  token : Option String
  deriving DecidableEq, Repr

namespace Session

/-- A text without the blanks around it, if anything is left. -/
def nonBlank? (s : String) : Option String :=
  if Text.trim s = "" then none else some (Text.trim s)

def ofToken (token : Option String) : Session := ⟨token.bind nonBlank?⟩

def isAuthenticated (s : Session) : Bool := s.token.isSome

/-- The session of a token that a caller hands over: a text, or nothing if it is vacant. -/
def ofPayload : Payload → Except Fault Session
  | .text s => .ok (ofToken (some s))
  | p => if p.isVacant then .ok (ofToken none) else .error (.notText p.kind)

def clear (_ : Session) : Session := ⟨none⟩

def headers (s : Session) : List (String × String) :=
  match s.token with
  | some token => [("Authorization", "Bearer " ++ token)]
  | none => []

/-- What stands at the path of a token file. -/
inductive TokenFile where
  | missing
  | directory
  | content (bytes : List UInt8)

/-- The token in a file. Bytes that are not UTF-8 are a fault. -/
def readTokenFile (path : String) : TokenFile → Journal × Except Fault (Option String)
  | .missing =>
    ([.warning ("Token file not found at " ++ path ++ "; continuing anonymously")], .ok none)
  | .directory =>
    ([.error ("Failed to read token file " ++ path ++ ": " ++ (Fault.isDirectory path).message)],
      .ok none)
  | .content bytes =>
    match Text.decodeUtf8? bytes with
    | some cs => ([], .ok (nonBlank? (String.ofList (Text.unifyNewlines cs))))
    | none => ([], .error .invalidUtf8)

/-- The session of an environment: its token, or else the one in the file, if a path is set. -/
def ofEnvironment (token : Option String) (path : String) (file : TokenFile) :
    Journal × Except Fault Session :=
  match token.bind nonBlank? with
  | some t => ([], .ok ⟨some t⟩)
  | none =>
    if path = "" then ([], .ok ⟨none⟩)
    else ((readTokenFile path file).1, (readTokenFile path file).2.map ofToken)

end Session

end Shopfront
