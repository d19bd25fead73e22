import Shopfront.Fault
import Shopfront.Journal
import Shopfront.Path
import Shopfront.Text.Lowercase

/-! Where the journal goes: to standard output, to a file that is rotated, or both, from a level on.
The settings are texts, as an environment holds them. -/

namespace Shopfront.LogSettings

abbrev Environment := List (String × String)

def setting (env : Environment) (name default : String) : String := (env.lookup name).getD default

def isOn (env : Environment) (name default : String) : Bool :=
  ["1", "true", "yes"].contains (Text.lower (setting env name default))

/-! ## Levels -/

/-- What the name of a level may stand for: a rank, or one of the texts and tables that stand under a
name of the same form and cannot serve as a level. -/
inductive Level where
  | rank (n : Nat)
  | text (s : String)
  | table (shown : String)
  deriving DecidableEq, Repr

namespace Level

def basicFormat : String := "%(levelname)s:%(name)s:%(message)s"

/-- The table of formats as it is shown. -/
def styles : String :=
  "\x7b'%': (<class 'logging.PercentStyle'>, '" ++ basicFormat ++ "'), " ++
    "'\x7b': (<class 'logging.StrFormatStyle'>, " ++
      "'\x7blevelname\x7d:\x7bname\x7d:\x7bmessage\x7d'), " ++
    "'$': (<class 'logging.StringTemplateStyle'>, " ++
      "'$\x7blevelname\x7d:$\x7bname\x7d:$\x7bmessage\x7d')\x7d"

def named : List (String × Level) :=
  [("CRITICAL", rank 50), ("FATAL", rank 50), ("ERROR", rank 40), ("WARNING", rank 30),
    ("WARN", rank 30), ("INFO", rank 20), ("DEBUG", rank 10), ("NOTSET", rank 0),
    ("BASIC_FORMAT", text basicFormat), ("_STYLES", table styles)]

/-- The level with a name in any case; a name that is not known is `INFO`. -/
def ofName (name : String) : Level := (named.lookup (Text.upper name)).getD (rank 20)

/-- The rank from which on entries are kept. -/
def threshold : Level → Except Fault Nat
  | rank n => .ok n
  | text s => .error (.unknownLevel s)
  | table shown => .error (.notALevel shown)

end Level

def mainLevel (env : Environment) : Level := .ofName (setting env "LOG_LEVEL" "INFO")
def transportLevel (env : Environment) : Level := .ofName (setting env "LOG_HTTP_LEVEL" "WARNING")

/-- Where a handler writes. -/
inductive Target where
  | output
  | file (maxBytes backups : Int) (path : String)
  deriving DecidableEq, Repr

structure Handler where
  level : Nat
  target : Target
  deriving DecidableEq, Repr

/-! ## Paths -/

/-- The most bytes in a name. -/
def nameLimit : Nat := 255

/-- The most bytes in a path. -/
def pathLimit : Nat := 4095

/-- Whether the way along the parts is too long, has too long a name on it, or goes through a regular
file. -/
def isBlocked (files : List String) (ps : List String) : Bool :=
  decide (pathLimit < (Path.joined ps).utf8ByteSize) || ps.any (nameLimit < ·.utf8ByteSize) ||
    (Path.places [] ps).any fun place =>
      match place with
      | [name] => files.contains name
      | _ => false

/-- Whether a log file can be opened at the path, in a directory that holds the given files. The
folders on the way are made. -/
def canOpen (files : List String) (path : String) : Bool :=
  let target := Path.resolve path
  !isBlocked files (Path.folder path) &&
    !(Path.places [] (Path.folder path)).contains target &&
    !target.all (· = "..") && target.all (·.utf8ByteSize ≤ nameLimit) &&
    decide ((Path.joined target).utf8ByteSize ≤ pathLimit)

/-! ## Handlers -/

/-- What a setting opens, and whether a log file could not be opened. -/
structure Opened (α : Type) where
  found : List α
  warned : Bool

/-- The log file. Its numbers are read after its folders were made, and before it is opened. -/
def fileTarget (env : Environment) (files : List String) : Except Fault (Opened Target) := do
  let path := setting env "LOG_FILE" "./logs/storefront.log"
  if isBlocked files (Path.folder path) then return ⟨[], true⟩
  else
    let maxBytes ← (Integer.read (setting env "LOG_MAX_BYTES" "1048576")).mapError .numeral
    let backups ← (Integer.read (setting env "LOG_BACKUPS" "3")).mapError .numeral
    if canOpen files path then return ⟨[.file maxBytes backups (Path.normalized path)], false⟩
    else return ⟨[], true⟩

def targets (env : Environment) (files : List String) : Except Fault (Opened Target) := do
  let output := if isOn env "LOG_TO_STDOUT" "true" then [.output] else []
  if isOn env "LOG_TO_FILE" "false" then
    let file ← fileTarget env files
    return ⟨output ++ file.found, file.warned⟩
  else return ⟨output, false⟩

/-- The handlers of the settings. The level is not looked at where there are none. -/
def handlers (env : Environment) (files : List String) : Except Fault (Opened Handler) := do
  let opened ← targets env files
  let found ← opened.found.mapM fun target => (mainLevel env).threshold.map (⟨·, target⟩)
  return ⟨found, opened.warned⟩

/-- What setting up leaves behind. -/
structure Setup where
  level : Nat
  transportLevel : Nat
  added : List Handler

/-- Set up the log. Where handlers are in place already, none are added. -/
def setUp (env : Environment) (files : List String) (inPlace : Bool) : Except Fault Setup := do
  let level ← (mainLevel env).threshold
  let transportLevel ← (transportLevel env).threshold
  if inPlace then return ⟨level, transportLevel, []⟩
  else
    let opened ← handlers env files
    return ⟨level, transportLevel, opened.found⟩

/-- The entries that standard output gets, from a level on. -/
def shown (env : Environment) (level : Nat) (entries : Journal) : Journal :=
  if isOn env "LOG_TO_STDOUT" "true" then entries.filter (level ≤ ·.severity.rank) else []

end Shopfront.LogSettings
