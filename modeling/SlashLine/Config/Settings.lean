import SlashLine.Config.Field
import SlashLine.Config.LogLevel

/-!
# Settings

The settings of the program in three sections and the log level: their defaults, how they are read,
and which values are allowed.

* `AppSettings.read`: all settings from nested entries, or everything that is wrong with them.
-/

namespace SlashLine.Config

/-- A value that does not fit, and where it is. -/
structure Problem where
  location : List String
  misfit : Misfit
  deriving DecidableEq, Repr

/-- A reading, or all problems with it. -/
abbrev Reading (α : Type) := Except (List Problem) α

namespace Reading

/-- Two readings, with the problems of both. -/
def both {α β : Type} (a : Reading α) (b : Reading β) : Reading (α × β) :=
  match a, b with
  | .ok x, .ok y => .ok (x, y)
  | .ok _, .error q => .error q
  | .error p, .ok _ => .error p
  | .error p, .error q => .error (p ++ q)

/-- The problems of a section, with its name before their places. -/
def within {α : Type} (name : String) (a : Reading α) : Reading α :=
  a.mapError fun ps => ps.map fun p => { p with location := name :: p.location }

end Reading

/-- The entries of a section. -/
abbrev Entries := List (Scalar × Value)

/-- A value that has been read, if it is allowed. -/
def allowed {α : Type} (refusal : α → Option String) (x : α) : Except Misfit α :=
  match refusal x with
  | some reason => .error (.refused reason)
  | none => .ok x

/-- The setting of a name: the default if there is no such entry. -/
def setting {α : Type} (name : String) (default : α) (read : Value → Except Misfit α)
    (entries : Entries) : Reading α :=
  match Value.lookup? (.text name) entries with
  | none => .ok default
  | some v => (read v).mapError fun m => [⟨[name], m⟩]

/-! ## The router -/

/-- How commands are run. -/
structure RouterSettings where
  /-- The number of reports that are remembered. -/
  historySize : Int := 100
  /-- The number of tips after a command. -/
  maxTips : Int := 3
  deriving DecidableEq, Repr

namespace RouterSettings

/-- From 100 to 500 reports are remembered. -/
def refuseHistorySize (n : Int) : Option String :=
  if n < 100 || 500 < n then some "history_size must be between 100 and 500" else none

/-- The number of tips is not negative. -/
def refuseMaxTips (n : Int) : Option String :=
  if n < 0 then some "max_tips cannot be negative" else none

/-- The settings in a section. -/
def read (entries : Entries) : Reading RouterSettings :=
  let history := setting "history_size" 100
    (fun v => (Field.int v).bind (allowed refuseHistorySize)) entries
  let tips := setting "max_tips" 3 (fun v => (Field.int v).bind (allowed refuseMaxTips)) entries
  (history.both tips).map fun (historySize, maxTips) => { historySize, maxTips }

end RouterSettings

/-! ## Recovery -/

/-- How faults are recovered from. -/
structure RecoverySettings where
  maxRetries : Int := 3
  /-- The wait that is doubled with every attempt, in seconds. -/
  baseDelay : Binary64 := .finite false Binary64.oneMagnitude
  maxSessions : Int := 1000
  deriving DecidableEq

namespace RecoverySettings

/-- From none to ten attempts are made. -/
def refuseMaxRetries (n : Int) : Option String :=
  if n < 0 then some "max_retries cannot be negative"
  else if 10 < n then some "max_retries should not exceed 10 (excessive retrying)"
  else none

/-- A minute. -/
def longestDelay : Binary64 := .ofUnits false (60 * Binary64.one) 1

/-- The base delay is not below zero and not above a minute. -/
def refuseBaseDelay (x : Binary64) : Option String :=
  if x.lt (.zero false) then some "base_delay cannot be negative"
  else if longestDelay.lt x then some "base_delay should not exceed 60 seconds"
  else none

/-- At least one session is tracked. -/
def refuseMaxSessions (n : Int) : Option String :=
  if n < 1 then some "max_sessions must be positive" else none

/-- The settings in a section. -/
def read (entries : Entries) : Reading RecoverySettings :=
  let defaults : RecoverySettings := {}
  let retries := setting "max_retries" defaults.maxRetries
    (fun v => (Field.int v).bind (allowed refuseMaxRetries)) entries
  let delay := setting "base_delay" defaults.baseDelay
    (fun v => (Field.float v).bind (allowed refuseBaseDelay)) entries
  let sessions := setting "max_sessions" defaults.maxSessions
    (fun v => (Field.int v).bind (allowed refuseMaxSessions)) entries
  (retries.both (delay.both sessions)).map fun (maxRetries, baseDelay, maxSessions) =>
    { maxRetries, baseDelay, maxSessions }

end RecoverySettings

/-! ## The user interface -/

/-- How output looks. -/
structure UiSettings where
  theme : String := "default"
  useColours : Bool := true
  deriving DecidableEq, Repr

namespace UiSettings

/-- The settings in a section. -/
def read (entries : Entries) : Reading UiSettings :=
  let theme := setting "theme" "default" Field.text entries
  let colours := setting "use_colors" true Field.bool entries
  (theme.both colours).map fun (theme, useColours) => { theme, useColours }

end UiSettings

/-! ## All settings -/

/-- All settings. -/
structure AppSettings where
  router : RouterSettings := {}
  recovery : RecoverySettings := {}
  ui : UiSettings := {}
  logLevel : String := usualLevel
  deriving DecidableEq

namespace AppSettings

instance : Inhabited AppSettings := ⟨{}⟩

/-- The log level that a value names. -/
def logLevelOf (v : Value) : Except Misfit String :=
  (Field.text v).bind fun name =>
    match configuredLevel? name with
    | some level => .ok level
    | none => .error (.refused (invalidLevelMessage name))

/-- The log level among entries. -/
def readLogLevel (entries : Entries) : Reading String :=
  setting "log_level" usualLevel logLevelOf entries

/-- A section among entries: its defaults if it is not there. -/
def readSection {α : Type} (name : String) (default : α) (read : Entries → Reading α)
    (entries : Entries) : Reading α :=
  match Value.lookup? (.text name) entries with
  | none => .ok default
  | some (.mapping inner) => (read inner).within name
  | some _ => .error [⟨[name], .modelType⟩]

/-- The settings in nested entries, or everything that is wrong with them. -/
def read (entries : Entries) : Reading AppSettings :=
  let router := readSection "router" {} RouterSettings.read entries
  let recovery := readSection "recovery" {} RecoverySettings.read entries
  let ui := readSection "ui" {} UiSettings.read entries
  (router.both (recovery.both (ui.both (readLogLevel entries)))).map
    fun (router, recovery, ui, logLevel) => { router, recovery, ui, logLevel }

end AppSettings

end SlashLine.Config
