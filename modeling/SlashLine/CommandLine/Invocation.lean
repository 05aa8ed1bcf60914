import SlashLine.CommandLine.Switch
import SlashLine.Text.LowerCase

/-!
# Invocations

What the words of a command line ask for: the switches before the name of a command, and the
command with what follows its name.

* `Invocation.read`: the invocation that words spell.
* `Task.read`: the task of a command.
-/

namespace SlashLine.CommandLine

/-- The commands of the command line. -/
inductive CommandName where
  | run
  | interactive
  | commands
  deriving DecidableEq, Repr

namespace CommandName

/-- The names of the commands. -/
def names : List (String × CommandName) :=
  [("run", run), ("interactive", interactive), ("commands", commands)]

/-- The command of a name. -/
def ofName? (name : String) : Option CommandName := (names.find? (·.1 == name)).map Prod.snd

end CommandName

/-- A command with the words after it, and the switches before it. -/
structure Invocation where
  /-- The path of the configuration file. -/
  config : Option String := none
  /-- A log level that counts more than the configured one. -/
  logLevel : Option String := none
  /-- No colours are wanted. -/
  plain : Bool := false
  command : CommandName
  words : List String
  deriving DecidableEq, Repr

/-- What words ask for: help, or a value. -/
inductive Wish (α : Type) where
  | help
  | of (value : α)
  deriving DecidableEq, Repr

/-- The switch that asks for help. -/
def helpSwitch : Switch := { long := "--help" }

namespace Invocation

/-- The log levels that may be asked for. -/
def logLevels : List String := ["debug", "info", "warning", "error"]

/-- The switches before the name of a command. -/
def switches : List Switch :=
  [{ long := "--config", letter := some 'c', takesValue := true },
   { long := "--log-level", letter := some 'l', takesValue := true },
   { long := "--no-color" }, helpSwitch]

/-- A value has to be acceptable, if it is given. -/
def require (name : String) (accepts : String → Bool) (value : Option String) :
    Except Misuse Unit :=
  match value with
  | none => .ok ()
  | some v => if accepts v then .ok () else .error (.badValue name v)

/-- The invocation that words spell. The path of a configuration file has to lead to something. -/
def read (pathExists : String → Bool) (words : List String) : Except Misuse (Wish Invocation) := do
  if words.isEmpty then throw .commandMissing
  let (given, words) ← readSwitches switches false words
  if given.has "--help" then return .help
  let config := given.value? "--config"
  let logLevel := given.value? "--log-level"
  require "--config" pathExists config
  require "--log-level" (fun level => logLevels.contains (Text.lower level)) logLevel
  match words with
  | [] => throw .commandMissing
  | name :: words =>
    match CommandName.ofName? name with
    | none => throw (.unknownCommand name)
    | some command =>
      return .of { config, logLevel, plain := given.has "--no-color", command, words }

end Invocation

/-- What a command does. -/
inductive Task where
  /-- Runs one line, for a session. -/
  | run (line : String) (session : Option String)
  /-- Runs lines as they are read, after an initial one. -/
  | interactive (initial : Option String)
  /-- Lists the commands of the router. -/
  | list
  deriving DecidableEq, Repr

namespace Task

/-- The switches of a command. -/
def switches : CommandName → List Switch
  | .run => [{ long := "--session", letter := some 's', takesValue := true }, helpSwitch]
  | _ => [helpSwitch]

/-- The task that a command and the words after it stand for. -/
def read (command : CommandName) (words : List String) : Except Misuse (Wish Task) := do
  let (given, words) ← readSwitches (switches command) true words
  if given.has "--help" then return .help
  match command, words with
  | .run, [line] => return .of (run line (given.value? "--session"))
  | .run, [] => throw (.wordMissing "COMMAND_LINE")
  | .run, _ :: extra => throw (.tooManyWords extra)
  | .interactive, [] => return .of (interactive none)
  | .interactive, [line] => return .of (interactive (some line))
  | .interactive, _ :: extra => throw (.tooManyWords extra)
  | .commands, [] => return .of list
  | .commands, extra => throw (.tooManyWords extra)

end Task

end SlashLine.CommandLine
