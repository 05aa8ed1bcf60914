import SlashLine.CommandLine.Invocation
import SlashLine.Config.Load
import SlashLine.Session

/-!
# The program

A command line from its words to what is written, painted, and the exit code. The words before the
name of a command are read first, then the settings are loaded, and then the command is read.

* `prepare`: the router and the task of a command line.
* `run`: a command line with all of its input.
-/

namespace SlashLine.CommandLine

open Dispatch Output Recovery Config

/-- What a command line is run with. -/
structure Circumstances where
  files : Files
  environment : Environment
  /-- What a session is called that is not given a name. -/
  sessionId : String
  /-- What the clock shows when the n-th report is made, counted from 0. -/
  clock : Nat → Timestamp

/-- How the program ends. -/
inductive Ending where
  | done
  /-- The command that was to be run failed. -/
  | commandFailed
  /-- A fault has left the router. -/
  | brokenOff (fault : Fault)
  /-- There are no settings to run with. -/
  | unconfigured (failure : Failure)
  | misused (misuse : Misuse)
  deriving DecidableEq

namespace Ending

/-- The exit code: 1 for failures, 2 for a wrong command line. -/
def exitCode : Ending → Nat
  | done => 0
  | commandFailed => 1
  | brokenOff _ => 1
  | unconfigured _ => 1
  | misused _ => 2

/-- What is said about an ending that keeps a command from being run. -/
def complaint? : Ending → Option String
  | done => none
  | commandFailed => none
  | brokenOff _ => none
  | unconfigured failure => some ("Failed to load configuration: " ++ failure.message)
  | misused misuse => some misuse.message

end Ending

/-- What a command line comes to. -/
structure Outcome where
  ending : Ending
  written : String := ""
  panels : List Panel := []

/-! ## The router -/

/-- The path of a place. -/
def pathOf (place : Place) : String := "/" ++ Text.joined "/" place

/-- The router that settings describe, with the built-in commands. None for settings that no
configuration allows. -/
def routerOf? (settings : AppSettings) (plain : Bool) (c : Circumstances) : Option Router := do
  let home := resolveHome (pathOf c.files.home)
  let log ← (Log.create (classify home) settings.router.historySize c.clock).toOption
  let backoff ← Backoff.create? settings.recovery.baseDelay
  let sessions ← Sessions.create? settings.recovery.maxSessions
  let router : Router :=
    { commands := .empty, home, engine := ⟨log, backoff, sessions⟩
      console := { plain := plain || !settings.ui.useColours }
      tips := TipCatalog.source {}, maxTips := settings.router.maxTips }
  return router.withBuiltins

/-! ## Tasks -/

/-- The text of the help. -/
def usage : String :=
  "Usage: slashline [--config FILE] [--log-level LEVEL] [--no-color] COMMAND\n\n" ++
  "Commands:\n" ++
  "  run LINE [--session NAME]  Run a single slash command\n" ++
  "  interactive [LINE]         Start an interactive session\n" ++
  "  commands                   List registered commands\n"

/-- The name of a command with spaces up to a common width. -/
def padName (name : String) : String :=
  name ++ String.ofList (List.replicate (12 - name.length) ' ')

/-- The list of the commands of a router, each with its description. -/
def commandList (router : Router) : String :=
  String.join (router.catalog.schemas.map fun s =>
    "/" ++ padName s.name ++ " " ++ s.description ++ "\n")

/-- What an interactive session starts with. -/
def greeting : String :=
  "Slash-command interpreter. Type /help for commands, 'exit' to quit.\n"

/-- What is written before a line is read. -/
def prompt : String := "chat> "

/-- A session with a router, before its first line. -/
def sessionOf (router : Router) (c : Circumstances) : Session where
  router := router
  sessionId := some c.sessionId
  workspace := some (pathOf c.files.current)

/-- The lines of a text. A line may end in a line feed, a carriage return, or both. -/
def linesOf (text : String) : List String :=
  let lines := ((plainBreaks text).splitOn "\n")
  if lines.getLast? == some "" then lines.dropLast else lines

/-- Carries out a task. -/
def perform (router : Router) (task : Task) (c : Circumstances) (input : String) : Outcome :=
  match task with
  | .run line session =>
    let routed := router.route line { sessionId := session }
    { ending := match routed.outcome with
        | .error fault => .brokenOff fault
        | .ok result => if result.success then .done else .commandFailed
      panels := routed.panels }
  | .interactive initial =>
    let closing := (sessionOf router c).run initial ((linesOf input).map .line)
    { ending := match closing.escaped? with
        | some fault => .brokenOff fault
        | none => .done
      written := greeting ++ String.join (closing.echoes.map (Echo.render prompt))
      panels := closing.session.exchanges.flatMap Exchange.panels }
  | .list => { ending := .done, written := commandList router }

/-! ## The whole -/

/-- The router and the task of a command line, or what it comes to without them. -/
def prepare (words : List String) (c : Circumstances) : Except Outcome (Router × Task) := do
  let misused (m : Misuse) : Outcome := { ending := .misused m }
  let pathExists (path : String) := (c.files.locate? path).isSome
  match ← (Invocation.read pathExists words).mapError misused with
  | .help => throw { ending := .done, written := usage }
  | .of invocation =>
    let settings ← (load c.files invocation.config c.environment).mapError fun failure =>
      { ending := .unconfigured failure }
    let router ← match routerOf? settings invocation.plain c with
      | some router => pure router
      | none => throw { ending := .unconfigured (.unfit []) }
    match ← (Task.read invocation.command invocation.words).mapError misused with
    | .help => throw { ending := .done, written := usage }
    | .of task => return (router, task)

/-- Runs a command line with all of its input. -/
def run (words : List String) (c : Circumstances) (input : String) : Outcome :=
  match prepare words c with
  | .error outcome => outcome
  | .ok (router, task) => perform router task c input

end SlashLine.CommandLine
