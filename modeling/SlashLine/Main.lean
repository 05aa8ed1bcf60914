import SlashLine.CommandLine.Program

/-!
# The executable

Gathers what the command line is run with, and writes what comes of it. Panels are written without
their frames.
-/

namespace SlashLine.Main

open CommandLine Config Output

/-- Adds what there is at a path, if anything. -/
def look (files : Files) (path : String) : IO Files := do
  try
    return files.withText path (← IO.FS.readFile path)
  catch _ =>
    let place := (← IO.currentDir) / path
    return if ← place.isDir then files.withDirectory path else files

/-- The configuration file that words name. -/
def configIn (words : List String) : Option String :=
  match Invocation.read (fun _ => true) words with
  | .ok (.of invocation) => invocation.config
  | _ => none

/-- The files that settings may be loaded from. -/
def gather (words : List String) (current home : Place) : IO Files := do
  let bare : Files := { texts := [], directories := [], current, home }
  match (configIn words).filter (!·.isEmpty) with
  | some path => look bare path
  | none => (usualPlaces bare).foldlM (fun files (place, _) => look files (pathOf place)) bare

/-- The steps of a path. -/
def steps (path : String) : Place := (Text.pathSteps path.toList).map String.ofList

/-- The variables of the environment. -/
def environment : IO Environment := do
  let mut found : List (String × String) := []
  for name in Environment.names do
    if let some text ← IO.getEnv name then found := (name, text) :: found
  let set := found
  return Environment.read fun name => (set.find? (·.1 == name)).map Prod.snd

/-- Writes panels. -/
def paint (output : IO.FS.Stream) (panels : List Panel) : IO Unit :=
  panels.forM fun panel => output.putStr panel.text

/-- A line without the line break at its end. -/
def chomp (line : String) : String :=
  String.ofList ((line.toList.reverse.dropWhile fun c => c == '\n' || c == '\r').reverse)

/-- Reads lines until the session ends. If it breaks off, that is the fault. -/
partial def converse (input output : IO.FS.Stream) (session : Session) : IO (Option Fault) := do
  output.putStr prompt
  output.flush
  let line ← input.getLine
  if line.isEmpty then
    output.putStr Session.endText
    return none
  let (outcome, next, _) := session.advance (.line (chomp line))
  paint output ((next.exchanges.drop session.exchanges.length).flatMap Exchange.panels)
  match outcome with
  | .error fault =>
    if fault.endsInput then
      output.putStr Session.endText
      return none
    return some fault
  | .ok true => return none
  | .ok false => converse input output next

/-- Runs a session. -/
def interact (input output : IO.FS.Stream) (session : Session) (initial : Option String) :
    IO Ending := do
  output.putStr greeting
  let (outcome, session) := session.begin initial
  paint output (session.exchanges.flatMap Exchange.panels)
  let fault ← match outcome with
    | .error fault => pure (some fault)
    | .ok () => converse input output session
  match fault with
  | some fault => return .brokenOff fault
  | none =>
    output.putStr Session.farewell
    return .done

/-- Writes what a command line has come to. -/
def finish (output errors : IO.FS.Stream) (outcome : Outcome) : IO UInt32 := do
  output.putStr outcome.written
  paint output outcome.panels
  if let some complaint := outcome.ending.complaint? then
    errors.putStrLn ("Error: " ++ complaint)
  return UInt32.ofNat outcome.ending.exitCode

end SlashLine.Main

open SlashLine SlashLine.CommandLine in
/-- Runs a command line. The built-in commands never fail, so no report is ever made and what the
clock shows does not matter. -/
def main (words : List String) : IO UInt32 := do
  let output ← IO.getStdout
  let errors ← IO.getStderr
  let current := Main.steps (← IO.currentDir).toString
  let home := Main.steps ((← IO.getEnv "HOME").getD "/")
  let c : Circumstances :=
    { files := ← Main.gather words current home
      environment := ← Main.environment
      sessionId := String.ofList (Text.hexDigits 8 (← IO.rand 0 0xffffffff))
      clock := fun _ => .ofDate 1970 1 1 0 0 }
  match prepare words c with
  | .error outcome => Main.finish output errors outcome
  | .ok (router, .interactive initial) =>
    let ending ← Main.interact (← IO.getStdin) output (sessionOf router c) initial
    return UInt32.ofNat ending.exitCode
  | .ok (router, task) => Main.finish output errors (perform router task c "")
