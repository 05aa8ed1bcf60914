import SlashLine.Command.Help
import SlashLine.Command.Similar
import SlashLine.Command.Validation
import SlashLine.Dispatch.Desk

/-!
# Built-in commands

`/help` shows the help of the commands there are at the moment of the call. `/errors` shows the
log of reports, or clears it together with the attempts of the sessions.
-/

namespace SlashLine.Dispatch

open Command Output Recovery

/-! ## Help -/

/-- The last of the steps to suggest. -/
def seeHelp : String := "Use `/help` to see available commands"

/-- The steps to suggest for a name that is not known. -/
def suggestionSteps (suggestions : List String) : List String :=
  suggestions.map (fun name => "Did you mean /" ++ name ++ "?") ++ [seeHelp]

/-- The names to suggest for one that is not known. -/
def suggestionsFor (catalog : Catalog) (name : String) : List String :=
  catalog.similar name Catalog.usualSuggestions

/-- The source that the help command registers its output under. -/
def helpSource : String := "help-command"

/-- The output about a command that is not known. -/
def helpNotFound (catalog : Catalog) (name : String) : Content where
  kind := .error
  title := "Command Not Found"
  message := "Command '" ++ name ++ "' is not recognized."
  nextSteps := suggestionSteps (suggestionsFor catalog name)

/-- The output with the help of a command. -/
def helpContent (catalog : Catalog) (name : String) (subcommand : Option String) : Content where
  kind := .info
  title := "Help: /" ++ name ++ (match subcommand with
    | some s => if s.isEmpty then "" else " " ++ s
    | none => "")
  message := catalog.commandHelp name subcommand

/-- The output with the overview. -/
def overviewContent (catalog : Catalog) : Content where
  kind := .info
  title := "Command Help"
  message := catalog.help
  nextSteps := ["Use `/help <command>` for detailed help on a command"]

/-- A name without the slashes before it. -/
def dropSlashes (name : String) : String := String.ofList (name.toList.dropWhile (· == '/'))

/-- Shows the help of the command that the first argument names, the subcommand that the second
one names, or the overview. -/
def helpHandler : Handler := fun call desk =>
  match call.parsed.arguments with
  | [] => (.ok (.succeeded "Help displayed"),
      desk.setPrimary helpSource (overviewContent call.catalog))
  | argument :: rest =>
    let name := dropSlashes argument
    if call.catalog.contains name then
      (.ok (.succeeded "Help displayed"),
        desk.setPrimary helpSource (helpContent call.catalog name rest.head?))
    else
      (.ok (.failed (Fault.unknownMessage name)),
        desk.setPrimary helpSource (helpNotFound call.catalog name))

/-- The help command. -/
def helpCommand : CommandEntry where
  schema :=
    { name := "help"
      description := "Show help information for commands"
      usage := "/help [command] [subcommand]"
      examples := ["/help", "/help errors"] }
  handler := helpHandler

/-! ## Errors -/

/-- The source that the errors command registers its output under. -/
def errorsSource : String := "errors-command"

/-- How many reports are listed where no limit is given. -/
def usualLimit : Int := 5

/-- The number of reports to list: a number that is given loses its fraction. -/
def reportLimit : Option Scalar → Except Fault Int
  | none => .ok usualLimit
  | some (.int i) => .ok i
  | some (.bool b) => .ok (if b then 1 else 0)
  | some (.float x) =>
    match x.truncate with
    | .ok i => .ok i
    | .error .infinite => .error (.other "OverflowError" "cannot convert float infinity to integer")
    | .error .notANumber => .error (.other "ValueError" "cannot convert float NaN to integer")
  | some _ => .error (.other "TypeError" "the limit is not a number")

/-- One line for each severity that occurs, by name. -/
def severityLines (statistics : Statistics) : List String :=
  (statistics.bySeverity.entries.mergeSort fun a b => !(b.1 < a.1)).map fun (name, count) =>
    "**" ++ name ++ "**: " ++ toString count

/-- The line of a report. -/
def reportLine (report : Report) : String :=
  "`" ++ ((report.timestamp.map Timestamp.clockTime).getD "") ++ "` [" ++ report.category.name ++
    "] " ++ report.userMessage

/-- The output with the log. -/
def errorsContent (log : Log) (limit : Int) : Content :=
  let statistics := log.statistics
  { kind := .info
    title := "Error Statistics"
    message := toString statistics.total ++ " error(s) recorded."
    details := severityLines statistics ++ (log.latest (some limit)).map reportLine
    nextSteps := ["Use `/errors --clear` to reset the history"] }

/-- The output after the log was cleared. -/
def clearedContent : Content where
  kind := .success
  title := "Error History Cleared"
  message := "Error history and retry counters were reset."

/-- The flag that asks for clearing is given. -/
def asksToClear (values : Slots String Scalar) : Bool := values.get? "clear" == some (.bool true)

/-- Shows the log, or clears it together with the attempts of the sessions. -/
def errorsHandler : Handler := fun call desk =>
  let values := coerceFlags call.catalog call.parsed
  if asksToClear values then
    (.ok (.succeeded "Error history cleared"),
      { desk with engine := desk.engine.clear }.setPrimary errorsSource clearedContent)
  else match reportLimit (values.get? "limit") with
    | .error fault => (.error fault, desk)
    | .ok limit =>
      let log := desk.engine.log
      (.ok (.succeeded (toString log.size ++ " error(s) recorded")
          (some (.statistics log.statistics))),
        desk.setPrimary errorsSource (errorsContent log (max limit 0)))

/-- The errors command. -/
def errorsCommand : CommandEntry where
  schema :=
    { name := "errors"
      description := "Show recent command errors"
      usage := "/errors [--limit <n>] [--clear]"
      examples := ["/errors", "/errors --limit 10", "/errors --clear"]
      flags :=
        [{ name := "limit", short := some "n", kind := .number, default := .int 5
           description := "Number of recent errors to list" },
         { name := "clear", short := some "c", kind := .boolean
           description := "Clear error history and retry counters" }] }
  handler := errorsHandler

end SlashLine.Dispatch
