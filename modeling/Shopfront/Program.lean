import Shopfront.Agenda.Run
import Shopfront.Backend.Seed
import Shopfront.Text.Lowercase

/-! The program: one round of loading, or a watch that loads again and again with a pause between. -/

namespace Shopfront.Program

/-- What the program is told by its surroundings. -/
structure Setting where
  mode : String
  gateway : String
  /-- The pause of the watch in seconds, as text. -/
  pollSeconds : String
  token : Option String
  tokenPath : String
  tokenFile : Session.TokenFile
  dataPath : String
  /-- The text of the data file, if there is one. -/
  data : Option String
  /-- How web requests end. -/
  outcomes : Nat → Outcome

def defaultMode : String := "once"
def defaultGateway : String := "http"
def defaultPollSeconds : String := "60"

def Setting.watches (s : Setting) : Bool := Text.lower s.mode == "watch"

/-- Why the program ends before its work is done. -/
inductive Stop where
  | unknownGateway
  | fault (f : Fault)

def gatewayNames : List String := ["http", "mock"]

/-- What opening has written, and what it has come to. -/
structure Opening (α : Type) where
  journal : Journal
  result : Except Stop α

def openMemory (s : Setting) : Except Fault Memory :=
  if s.dataPath = "" then Memory.ofFields []
  else
    match s.data with
    | none => .error (.missingFile s.dataPath)
    | some text => Memory.ofText s.dataPath text

def openWeb (s : Setting) : Web where
  root := Web.rootOf "" Web.defaultPath
  timeout := Web.defaultTimeout
  attempts := Web.defaultAttempts
  outcomes := s.outcomes
  sent := []
  isClosed := false

/-- The backend that the setting names. -/
def openBackend (s : Setting) : Opening Backend :=
  let name := Text.lower s.gateway
  if name = "mock" then
    match openMemory s with
    | .ok m => ⟨[m.seeded], .ok (.memory m)⟩
    | .error fault => ⟨[], .error (.fault fault)⟩
  else if name = "http" then ⟨[], .ok (.web (openWeb s))⟩
  else
    ⟨[.error ("No gateway registered for " ++ Fault.quoteWord name ++ " (choose from " ++
      Payload.quotedTexts gatewayNames ++ ")")], .error .unknownGateway⟩

def anonymous : Entry := .info "No credential configured; favourites and cart stay empty"

/-- The agenda of a shop that is about to load. -/
def openAgenda (s : Setting) : Opening Agenda :=
  match Session.ofEnvironment s.token s.tokenPath s.tokenFile with
  | (entries, .error fault) => ⟨entries, .error (.fault fault)⟩
  | (entries, .ok session) =>
    let entries := entries ++
      if s.watches || session.isAuthenticated then [] else [anonymous]
    match openBackend s with
    | ⟨more, .error stop⟩ => ⟨entries ++ more, .error stop⟩
    | ⟨more, .ok backend⟩ =>
      ⟨entries ++ more, .ok (.ofShop (.ofSession session .empty Cart.defaultTaxRate) backend)⟩

/-- One round, with what it wrote and how it ended. -/
structure Round where
  agenda : Agenda
  journal : Journal
  ending : Option Ending

def round (a : Agenda) : Round :=
  let a' := { a with journal := [] }.perform .syncOnce
  ⟨a', a'.journal, a'.ending? a.nextTask⟩

/-- The entry for a round that was stopped. -/
def stoppedRound : Option Ending → Journal
  | some (.error trouble) => [.error ("Unhandled error in watch loop: " ++ trouble.message)]
  | _ => []

def fatal (message : String) : Entry := .error ("Fatal storefront error: " ++ message)

/-- How far a pause strays from its length. -/
inductive Jitter where
  | low
  | high

/-- A tenth, below or above. -/
def Jitter.factor : Jitter → Binary64
  | low => .ofScientific true 1 (-1)
  | high => .ofScientific false 1 (-1)

/-- The pause between two rounds of the watch: at least a second, and a tenth less or more. -/
def delay (poll : Int) (jitter : Jitter) : Except Fault Binary64 :=
  let base := Binary64.ofInt (max 1 poll)
  match base with
  | .finite .. => .ok (Binary64.add base (Binary64.mul jitter.factor base))
  | _ => .error .hugeInteger

def watchStart (poll : Int) : Entry :=
  .info ("Starting watch; sync every " ++ Integer.text poll ++ " seconds.")

def interrupted : Entry := .info "Interrupted; exiting."

/-- What a run leaves behind. -/
structure Report where
  exit : Option Nat
  delays : List Binary64
  journal : Journal

def stopped (entries : Journal) : Stop → Report
  | .unknownGateway => ⟨some 1, [], entries⟩
  | .fault f => ⟨some 2, [], entries ++ [fatal f.message]⟩

def runOnce (s : Setting) : Report :=
  match openAgenda s with
  | ⟨entries, .error stop⟩ => stopped entries stop
  | ⟨entries, .ok agenda⟩ =>
    let r := round agenda
    match r.ending with
    | some (.error trouble) => ⟨some 2, [], entries ++ r.journal ++ [fatal trouble.message]⟩
    | some (.ok (.code n)) => ⟨some n, [], entries ++ r.journal⟩
    | _ => ⟨none, [], entries ++ r.journal⟩

/-- The rounds of a watch that is interrupted in the last of `pauses` pauses. -/
def watchRounds (pause : Binary64) : Nat → Agenda → Journal × List Binary64
  | 0, _ => ([], [])
  | pauses + 1, a =>
    let r := round a
    let (entries, delays) := watchRounds pause pauses r.agenda
    (r.journal ++ stoppedRound r.ending ++ entries, pause :: delays)

def runWatch (s : Setting) (poll : Int) (jitter : Jitter) (pauses : Nat) : Report :=
  match openAgenda s with
  | ⟨entries, .error stop⟩ => stopped (watchStart poll :: entries) stop
  | ⟨entries, .ok agenda⟩ =>
    match delay poll jitter with
    | .ok pause =>
      let (more, delays) := watchRounds pause pauses agenda
      ⟨none, delays, watchStart poll :: entries ++ more ++ [interrupted]⟩
    | .error fault =>
      let r := round agenda
      ⟨some 2, [], watchStart poll :: entries ++ r.journal ++ stoppedRound r.ending ++
        [fatal fault.message]⟩

/-- A run of the program; a watch is interrupted in the last of the given pauses. -/
def run (s : Setting) (jitter : Jitter) (pauses : Nat) : Except Fault Report := do
  let poll ← (Integer.read s.pollSeconds).mapError .numeral
  return if s.watches then runWatch s poll jitter pauses else runOnce s

end Shopfront.Program
