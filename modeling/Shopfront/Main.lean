import Shopfront.LogSettings
import Shopfront.Program

/-! The command line. Settings come from the environment, and the journal goes to standard output.
No web transport is built in: every web request ends without a response. -/

namespace Shopfront.CommandLine

-- Powers are the built-in ones, whatever is imported beside this module.
attribute [local instance (high)] instPowNat

def tokenFile (path : String) : IO Session.TokenFile := do
  try
    return .content (← IO.FS.readBinFile path).toList
  catch
    | .noFileOrDirectory .. => return .missing
    | _ => return .directory

def dataText (path : String) : IO (Option String) := do
  try
    return some (← IO.FS.readFile path)
  catch _ => return none

def fromEnvironment (name default : String) : IO String := do
  return (← IO.getEnv name).getD default

def setting : IO Program.Setting := do
  let tokenPath ← fromEnvironment "TOKEN_PATH" ""
  let dataPath ← fromEnvironment "MOCK_DATA_PATH" ""
  return {
    mode := ← fromEnvironment "MODE" Program.defaultMode
    gateway := ← fromEnvironment "GATEWAY" Program.defaultGateway
    pollSeconds := ← fromEnvironment "POLL_SECONDS" Program.defaultPollSeconds
    token := ← IO.getEnv "STOREFRONT_TOKEN"
    tokenPath
    tokenFile := ← tokenFile tokenPath
    dataPath
    data := ← dataText dataPath
    outcomes := fun _ => .disconnected "no transport" }

def logSettings : IO LogSettings.Environment := do
  let settings ← ["LOG_TO_STDOUT", "LOG_LEVEL"].mapM fun name => do
    return (← IO.getEnv name).map (name, ·)
  return settings.filterMap id

/-- How the journal is printed. -/
structure Log where
  settings : LogSettings.Environment
  level : Nat

def printJournal (log : Log) (entries : Journal) : IO Unit := do
  for e in LogSettings.shown log.settings log.level entries do
    IO.println e.line

/-- Milliseconds of a pause. -/
def milliseconds (pause : Binary64) : UInt32 :=
  match (Binary64.mul pause (.ofInt 1000)).truncate? with
  | some n => (min n.toNat (2 ^ (32 : Nat) - 1)).toUInt32
  | none => 0

def finish (log : Log) (r : Program.Report) : IO UInt32 := do
  printJournal log r.journal
  return (r.exit.getD 0).toUInt32

partial def watch (log : Log) (poll : Int) (agenda : Agenda) : IO UInt32 := do
  let r := Program.round agenda
  printJournal log (r.journal ++ Program.stoppedRound r.ending)
  match Program.delay poll (if (← IO.rand 0 1) = 0 then .low else .high) with
  | .ok pause => do
    IO.sleep (milliseconds pause)
    watch log poll r.agenda
  | .error fault => finish log (Program.stopped [] (.fault fault))

def runWatch (log : Log) (s : Program.Setting) (poll : Int) : IO UInt32 := do
  printJournal log [Program.watchStart poll]
  match Program.openAgenda s with
  | ⟨entries, .error stop⟩ => finish log (Program.stopped entries stop)
  | ⟨entries, .ok agenda⟩ => do
    printJournal log entries
    watch log poll agenda

def refuse (f : Fault) : IO UInt32 := do
  IO.eprintln f.message
  return 1

def run : IO UInt32 := do
  let settings ← logSettings
  let s ← setting
  match (LogSettings.mainLevel settings).threshold, Integer.read s.pollSeconds with
  | .error fault, _ => refuse fault
  | _, .error cause => refuse (.numeral cause)
  | .ok level, .ok poll =>
    if s.watches then runWatch ⟨settings, level⟩ s poll
    else finish ⟨settings, level⟩ (Program.runOnce s)

end Shopfront.CommandLine

def main : IO UInt32 := Shopfront.CommandLine.run
