import SlashLine.Dispatch.Router

/-!
# Sessions

Lines are read one after the other and handed to the router, until a line asks to leave or there
are no more. After a fault that leaves the router no further line is read: it is taken for the end
of the input if it says so, and else it leaves the session too, which breaks off.

* `Session.advance`: one line.
* `Session.loop`: the lines that are read, and what is echoed on the way.
* `Session.run`: the same after an initial command.
-/

namespace SlashLine

open Dispatch Output

/-- What reading a line gives: the line, or an interruption. After the last event the input has
ended. -/
inductive Event where
  | line (text : String)
  | interrupt
  deriving DecidableEq, Repr

/-- What a session writes besides its panels. -/
inductive Echo where
  | prompt
  | text (s : String)
  deriving DecidableEq, Repr

/-- A fault that is taken for the end of the input, when a line that is read comes to it. -/
def Fault.endsInput (fault : Fault) : Bool := fault.kind == "EOFError"

/-- A line that was handed to the router, and what came of it. -/
structure Exchange where
  text : String
  outcome : Except Fault Result
  panels : List Panel

/-- A router, the circumstances of its calls, and the calls so far. -/
structure Session where
  router : Router
  sessionId : Option String
  workspace : Option String
  commandsRun : Nat := 0
  failures : Nat := 0
  exchanges : List Exchange := []

namespace Session

/-- The words that end a session. -/
def exitWords : List String := ["exit", "quit", "bye"]

/-- The words that stand for the help command. -/
def helpWords : List String := ["help", "?"]

/-- The context of every call of a session. -/
def context (session : Session) : Context :=
  { sessionId := session.sessionId, workspace := session.workspace }

/-- Hands a line to the router. The line is counted, and a failure. -/
def submit (session : Session) (line : String) : Except Fault Unit × Session :=
  let routed := session.router.route line session.context
  (routed.outcome.map fun _ => (), { session with
    router := routed.router
    commandsRun := session.commandsRun + 1
    failures := if routed.answers false then session.failures + 1 else session.failures
    exchanges := session.exchanges ++ [⟨line, routed.outcome, routed.panels⟩] })

/-- Deals with a line: it ends the session, or it is handed to the router, a word for help as the
help command. -/
def process (session : Session) (line : String) : Except Fault Bool × Session :=
  let word := Text.lower line
  if exitWords.contains word then (.ok true, session)
  else
    let (outcome, session) := session.submit (if helpWords.contains word then "/help" else line)
    (outcome.map fun _ => false, session)

/-- What is written after an interruption. -/
def interruptText : String := "\nUse 'exit' to quit.\n"

/-- What is written where the input ends. -/
def endText : String := "\n"

/-- What is written in the end. -/
def farewell : String := "\nGoodbye!\n"

/-- Deals with one event: whether the session ends, the session afterwards, and what is written.
Blank lines are passed over. -/
def advance (session : Session) : Event → Except Fault Bool × Session × List Echo
  | .interrupt => (.ok false, session, [.text interruptText])
  | .line text =>
    if Text.allBlank text then (.ok false, session, [])
    else
      let (outcome, session) := session.process (Text.trim text)
      (outcome, session, [])

/-- What came of a session: the session afterwards, what was written, the events that were not
read, the fault that its last line came to, if it did, and whether it broke off with that. -/
structure Closing where
  session : Session
  echoes : List Echo
  unread : List Event
  fault : Option Fault := none
  broken : Bool := false

/-- The fault that leaves the session, if it broke off. -/
def Closing.escaped? (closing : Closing) : Option Fault :=
  closing.fault.filter fun _ => closing.broken

/-- The same, with more written before. -/
def Closing.after (closing : Closing) (echoes : List Echo) : Closing :=
  { closing with echoes := echoes ++ closing.echoes }

/-- Closes a session whose last line has come to a fault: it breaks off, unless the fault is taken
for the end of the input. -/
def closeWith (session : Session) (echoes : List Echo) (unread : List Event) (fault : Fault) :
    Closing :=
  { session, unread
    echoes := echoes ++ if fault.endsInput then [.text endText] else []
    fault := some fault
    broken := !fault.endsInput }

/-- Reads lines until the session ends or breaks off. -/
def loop (session : Session) : List Event → Closing
  | [] => { session, echoes := [.prompt, .text endText], unread := [] }
  | event :: rest =>
    match session.advance event with
    | (.error fault, session, echoes) =>
      session.closeWith (.prompt :: echoes) rest fault
    | (.ok true, session, echoes) => { session, echoes := .prompt :: echoes, unread := rest }
    | (.ok false, session, echoes) => (loop session rest).after (.prompt :: echoes)

/-- The session after an initial command, if one is given. One that asks to leave is passed over. -/
def begin (session : Session) (initial : Option String) : Except Fault Unit × Session :=
  match initial with
  | none => (.ok (), session)
  | some line =>
    if line.isEmpty then (.ok (), session)
    else
      let (outcome, session) := session.process line
      (outcome.map fun _ => (), session)

/-- Says farewell, unless the session has broken off. -/
def Closing.farewelled (closing : Closing) : Closing :=
  if closing.broken then closing
  else { closing with echoes := closing.echoes ++ [.text farewell] }

/-- Runs an initial command, if one is given, and then the loop. -/
def run (session : Session) (initial : Option String) (events : List Event) : Closing :=
  match session.begin initial with
  | (.error fault, session) =>
    { session, echoes := [], unread := events, fault := some fault, broken := true }
  | (.ok (), session) => (session.loop events).farewelled

/-- Deals with lines one after the other: which of them would end the session. A fault breaks them
off. -/
def processAll (session : Session) : List String → Except Fault (List Bool) × Session
  | [] => (.ok [], session)
  | line :: rest =>
    match session.process line with
    | (.error fault, session) => (.error fault, session)
    | (.ok ends, session) =>
      let (more, session) := session.processAll rest
      (more.map (ends :: ·), session)

end Session

/-- The text that a session writes, with a given prompt. -/
def Echo.render (prompt : String) : Echo → String
  | .prompt => prompt
  | .text s => s

end SlashLine
