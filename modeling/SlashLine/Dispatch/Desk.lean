import SlashLine.Dispatch.Result
import SlashLine.Output.Stage
import SlashLine.Recovery.Engine

/-!
# The desk

What the handler of a command works with: the call it answers, and the stage, the engine and the
canvas that it may change.
-/

namespace SlashLine.Dispatch

open Command Output Recovery

/-- The circumstances of one call. -/
structure Context where
  sessionId : Option String := none
  workspace : Option String := none
  /-- Where the output of the call goes. -/
  target : Target := .own
  cancelled : Bool := false

namespace Context

/-- The context after a request to stop. -/
def cancel (context : Context) : Context := { context with cancelled := true }

end Context

/-- What a command may change. -/
structure Desk where
  stage : Stage
  engine : Engine
  canvas : Canvas
  /-- The log that the faults of calls go to, if that is not the engine's. -/
  ownLog : Option Log := none

namespace Desk

/-- The log that the faults of calls go to. -/
def log (desk : Desk) : Log := desk.ownLog.getD desk.engine.log

/-- The desk with another log in place of the one that the faults of calls go to. -/
def withLog (desk : Desk) (log : Log) : Desk :=
  match desk.ownLog with
  | some _ => { desk with ownLog := some log }
  | none => { desk with engine := { desk.engine with log } }

/-- Sets the primary output. -/
def setPrimary (desk : Desk) (source : String) (content : Content) : Desk :=
  { desk with stage := desk.stage.setPrimary source content }

/-- Adds feedback. -/
def addFeedback (desk : Desk) (source : String) (feedback : Feedback) : Desk :=
  { desk with stage := desk.stage.addFeedback source feedback }

/-- Paints the stage. -/
def render (desk : Desk) (console : Console) : Except Fault Unit × Desk :=
  let (outcome, stage, canvas) := desk.stage.render console desk.canvas
  (outcome, { desk with stage, canvas })

end Desk

/-- A call of a command: the commands there are, what was typed, and the circumstances. -/
structure Invocation where
  catalog : Catalog
  parsed : Parsed
  context : Context
  console : Console

/-- A handler answers a call, or fails; either way it may have changed what is on the desk. -/
abbrev Handler := Invocation → Desk → Except Fault Result × Desk

/-- A command: what it accepts and what it does. -/
structure CommandEntry where
  schema : Schema
  handler : Handler

end SlashLine.Dispatch
