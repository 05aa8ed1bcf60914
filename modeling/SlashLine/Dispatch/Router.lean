import SlashLine.Dispatch.Builtin
import SlashLine.Tips

/-!
# The router

One line of input is parsed, checked and handed to the handler of its command; then tips are added
or a conversation is started, and everything is painted once. Whatever fails on the way becomes a
report and a failed result, as long as it can be put into words: a fault whose text is asked for in
vain while another one is dealt with leaves the router.

* `Router.route`: one line, from the text to the result, or to the fault that leaves the router.
* `Router.dispatch`: the same as long as nothing fails.
* `Router.recoverFrom`: what becomes of a fault.
-/

namespace SlashLine.Dispatch

open Command Output Recovery

/-! ## What serves the router -/

/-- The stages of a call. -/
inductive Phase where
  | idle
  | parsing
  | validating
  | executing
  | postProcessing
  | success
  | failed
  deriving DecidableEq, Repr

namespace Phase

/-- The name of a phase. -/
def name : Phase → String
  | idle => "idle"
  | parsing => "parsing"
  | validating => "validating"
  | executing => "executing"
  | postProcessing => "post-processing"
  | success => "success"
  | failed => "failed"

/-- A call ends in this phase. -/
def isFinal : Phase → Bool
  | success => true
  | failed => true
  | _ => false

end Phase

/-- What came of handing a result over to a conversation. -/
structure Transition where
  success : Bool
  sessionId : Option String := none
  error : Option String := none
  fallback : List String := []
  deriving DecidableEq, Repr

/-- Turns the result of a command into a conversation, or fails. -/
abbrev Bridge := Result → String → Context → Except Fault Transition

/-- The tips for a command that was run with a template and flags, or a failure. -/
abbrev TipSource := String → Option String → Slots String FlagValue → Except Fault (List Tip)

namespace TipCatalog

/-- The tips of a catalogue, as a source that does not fail. -/
def source (tips : TipCatalog) : TipSource := fun command template _ =>
  .ok (tips.tipsFor command template)

end TipCatalog

/-- What was asked for help during a call, in order. -/
inductive Consultation where
  | handler (entry : CommandEntry) (parsed : Parsed)
  | bridge (command : String) (sessionId : Option String)
  | tips (command : String) (template : Option String)

/-- The commands and everything that serves them. -/
structure Router where
  commands : Slots String CommandEntry
  /-- The home directory, if it is known, for texts that do not show it. -/
  home : Option String
  engine : Engine
  /-- The log that the faults of calls go to, if that is not the engine's. -/
  ownLog : Option Log := none
  stage : Stage := Stage.empty
  console : Console := {}
  bridge : Option Bridge := none
  tips : TipSource
  maxTips : Int := 3
  lastPhase : Phase := .idle

namespace Router

/-- The log that the faults of calls go to. -/
def log (router : Router) : Log := router.ownLog.getD router.engine.log

/-- The schemas of the commands. -/
def catalog (router : Router) : Catalog := ⟨router.commands.map CommandEntry.schema⟩

theorem get?_catalog (router : Router) (name : String) :
    router.catalog.get? name = (router.commands.get? name).map CommandEntry.schema :=
  Slots.get?_map _ _ _

/-- Registers a command under its name. -/
def register (router : Router) (entry : CommandEntry) : Router :=
  { router with commands := router.commands.set entry.schema.name entry }

/-- Removes a command. -/
def unregister (router : Router) (name : String) : Router :=
  { router with commands := router.commands.erase name }

/-- Adds the built-in commands. -/
def withBuiltins (router : Router) : Router :=
  (router.register helpCommand).register errorsCommand

/-- The overview of all commands, or the help of one. -/
def help (router : Router) (name : Option String) : String :=
  match name with
  | none => router.catalog.help
  | some n => if n.isEmpty then router.catalog.help else router.catalog.commandHelp n none

end Router

/-! ## One call -/

/-- The state of a call: the desk, the phase last reached for good, the name of the command once
it is known, and what was asked for help. -/
structure Call where
  desk : Desk
  lastPhase : Phase
  command : Option String := none
  trace : List Consultation := []

namespace Call

/-- Enters a phase. Only a final one is remembered. -/
def enter (call : Call) (phase : Phase) : Call :=
  if phase.isFinal then { call with lastPhase := phase } else call

/-- Notes what is asked for help. -/
def consult (call : Call) (c : Consultation) : Call := { call with trace := call.trace ++ [c] }

/-- Sets the primary output. -/
def setPrimary (call : Call) (content : Content) : Call :=
  { call with desk := call.desk.setPrimary "command-router" content }

/-- Adds feedback. -/
def addFeedback (call : Call) (source : String) (feedback : Feedback) : Call :=
  { call with desk := call.desk.addFeedback source feedback }

/-- Paints what there is, and ends the call with a result if that succeeds. -/
def finish (call : Call) (console : Console) (phase : Phase) (result : Result) :
    Except Fault Result × Call :=
  match call.desk.render console with
  | (.error fault, desk) => (.error fault, { call with desk })
  | (.ok (), desk) => (.ok result, { call with desk }.enter phase)

/-- Shows an error of the router's own, and ends the call with a failure. -/
def fail (call : Call) (console : Console) (content : Content) (error : String) :
    Except Fault Result × Call :=
  (call.setPrimary content).finish console .failed (.failed error)

end Call

/-! ## Errors of the router's own -/

/-- The output about text that is no command. -/
def syntaxContent (e : ParseError) : Content where
  kind := .error
  title := "Invalid Command Syntax"
  message := e.message
  nextSteps := [e.hint, seeHelp]

/-- The output about a command that is not known. -/
def notFoundContent (name : String) (suggestions : List String) : Content where
  kind := .error
  title := "Command Not Found"
  message := "The command `/" ++ name ++ "` is not recognized."
  nextSteps := suggestionSteps suggestions

/-- The output about a command that does not fit its declaration. -/
def invalidContent (name : String) (errors : List String) : Content where
  kind := .error
  title := "Command Validation Failed"
  message := "The command `/" ++ name ++ "` has invalid parameters."
  details := errors
  nextSteps :=
    ["Use `/help " ++ name ++ "` to see correct usage", "Check the flag names and values"]

/-- The output about a handler that failed without an output of its own. -/
def handlerFailureContent (name : String) (result : Result) : Content where
  kind := .error
  title := "Command Failed"
  message := match result.error with
    | some e => if e.isEmpty then "`/" ++ name ++ "` did not complete" else e
    | none => "`/" ++ name ++ "` did not complete"
  nextSteps := ["Try '/help " ++ name ++ "' for usage"]

/-- Ends a call whose command is not known. -/
def Call.failUnknown (call : Call) (console : Console) (name : String)
    (suggestions : List String) : Except Fault Result × Call :=
  call.fail console (notFoundContent name suggestions) (Fault.unknownMessage name)

/-! ## After the handler -/

/-- The feedback about a conversation that was to be started: what went wrong and what to do
instead, or that it has started. -/
def transitionFeedback (t : Transition) : List (String × Feedback) :=
  let present (s : Option String) := s.filter (!·.isEmpty)
  if t.success then
    match present t.sessionId with
    | some id => [("conversation-started",
        ⟨.conversation, "Conversation started (session `" ++ id ++ "`).", 5⟩)]
    | none => []
  else
    (match present t.error with
      | some e => [("conversation-transition",
          ⟨.warning, "Could not start conversation: " ++ e, 3⟩)]
      | none => []) ++
    (if t.fallback.isEmpty then []
      else [("conversation-fallback",
        ⟨.guidance, Text.joined "\n" (t.fallback.map ("- " ++ ·)), 2⟩)])

namespace Router

/-- Hands a result over to the bridge. -/
def startConversation (bridge : Bridge) (call : Call) (context : Context) (command : String)
    (result : Result) : Except Fault Unit × Call :=
  let call := call.consult (.bridge command context.sessionId)
  match bridge result command context with
  | .error fault => (.error fault, call)
  | .ok t =>
    (.ok (), (transitionFeedback t).foldl (fun c (source, f) => c.addFeedback source f) call)

/-- The template a command was run with. -/
def templateOf (parsed : Parsed) : Option String :=
  (parsed.flag? ["template", "t"]).map Scalar.render

/-- Adds the tips for a command. -/
def addTips (router : Router) (call : Call) (parsed : Parsed) : Except Fault Unit × Call :=
  let template := templateOf parsed
  let call := call.consult (.tips parsed.command template)
  match router.tips parsed.command template parsed.flags with
  | .error fault => (.error fault, call)
  | .ok tips =>
    match Tip.prioritize tips (some router.maxTips) with
    | [] => (.ok (), call)
    | best => (.ok (), call.addFeedback "command-tips" ⟨.tip, Tip.format best, 1⟩)

/-- Starts a conversation if one is wanted and there is a bridge; adds tips otherwise. -/
def postProcess (router : Router) (call : Call) (context : Context) (parsed : Parsed)
    (result : Result) : Except Fault Unit × Call :=
  match router.bridge with
  | some bridge =>
    if result.wantsConversation then startConversation bridge call context parsed.command result
    else router.addTips call parsed
  | none => router.addTips call parsed

/-- Runs the handler of a command and shows what came of it. -/
def execute (router : Router) (console : Console) (call : Call) (context : Context)
    (entry : CommandEntry) (parsed : Parsed) : Except Fault Result × Call :=
  let call := (call.enter .executing).consult (.handler entry parsed)
  match entry.handler ⟨router.catalog, parsed, context, console⟩ call.desk with
  | (.error fault, desk) => (.error fault, { call with desk })
  | (.ok result, desk) =>
    let call := { call with desk }
    if result.success then
      match router.postProcess (call.enter .postProcessing) context parsed result with
      | (.error fault, call) => (.error fault, call)
      | (.ok (), call) => call.finish console .success result
    else
      let call := if call.desk.stage.hasPrimary then call
        else call.setPrimary (handlerFailureContent parsed.command result)
      call.finish console .failed result

/-- One line, as long as nothing fails. -/
def dispatch (router : Router) (console : Console) (call : Call) (context : Context)
    (input : String) : Except Fault Result × Call :=
  let call := call.enter .parsing
  match parse router.catalog input with
  | .error e => call.fail console (syntaxContent e) e.message
  | .ok parsed =>
    let call := { call with command := some parsed.command }.enter .validating
    if !router.commands.contains parsed.command then
      call.failUnknown console parsed.command (suggestionsFor router.catalog parsed.command)
    else match violations router.catalog parsed with
      | [] =>
        match router.commands.get? parsed.command with
        | none => call.failUnknown console parsed.command []
        | some entry => router.execute console call context entry parsed
      | vs =>
        let errors := vs.map Violation.message
        call.fail console (invalidContent parsed.command errors) (Fault.invalidMessage errors)

/-! ## Faults -/

/-- What to do after a fault: its hint, what may help, and the help. -/
def faultSteps (fault : Fault) (report : Report) (command : Option String) : List String :=
  ((fault.hint.filter (!·.isEmpty)).toList ++ report.intents.map Intent.description) ++
    [match command with
      | some name => if name.isEmpty then "Try '/help'" else "Try '/help " ++ name ++ "'"
      | none => "Try '/help'"]

/-- The output about a fault. -/
def faultContent (fault : Fault) (report : Report) (command : Option String) : Content where
  kind := .error
  title := if report.severity = .critical then "Critical Error" else "Command Error"
  message := report.userMessage
  details := [report.technicalMessage]
  nextSteps := faultSteps fault report command

/-- The result of a call that ended with a fault. -/
def faultResult (report : Report) : Result where
  success := false
  error := some report.userMessage
  metadata := Slots.ofList
    [("severity", .text report.severity.name),
     ("recovery_options", .list (report.labels.map .text)),
     ("can_retry", .scalar (.bool report.canRetry))]

/-- Where a fault of a call happened. -/
def faultContext (call : Call) (context : Context) (input : String) : FaultContext where
  operation := "command-execution"
  command := call.command
  userInput := some input
  sessionId := context.sessionId

/-- Notes that something has failed while a fault was dealt with. What is noted is the text of that
failure; where it has none, the call ends with what asking for it fails with. -/
def noted {α : Type} (failure : Fault) (outcome : Except Fault α) : Except Fault α :=
  match failure.message with
  | .error trouble => .error trouble
  | .ok _ => outcome

/-- The report about a fault, remembered in the log. If classifying fails, that is noted and the
generic rule applies, and nothing is remembered. -/
def reportOn (router : Router) (call : Call) (context : Context) (input : String) (fault : Fault) :
    Except Fault Report × Call :=
  let place := faultContext call context input
  match call.desk.log.record fault place with
  | (.ok report, log) => (.ok report, { call with desk := call.desk.withLog log })
  | (.error failure, log) =>
    (noted failure (genericRule.report router.home fault (call.desk.log.dated place)),
      { call with desk := call.desk.withLog log })

/-- Paints the report about a fault. If that fails, it is noted. -/
def safeRender (console : Console) (call : Call) : Except Fault Unit × Call :=
  match call.desk.render console with
  | (.ok (), desk) => (.ok (), { call with desk })
  | (.error failure, desk) => (noted failure (.ok ()), { call with desk })

/-- Ends a call with a fault: it is reported, the report is shown as far as the console allows,
and the result is a failure. -/
def recoverFrom (router : Router) (console : Console) (call : Call) (context : Context)
    (input : String) (fault : Fault) : Except Fault Result × Call :=
  match router.reportOn call context input fault with
  | (.error trouble, call) => (.error trouble, call)
  | (.ok report, call) =>
    match safeRender console (call.setPrimary (faultContent fault report call.command)) with
    | (.error trouble, call) => (.error trouble, call)
    | (.ok (), call) => (.ok (faultResult report), call.enter .failed)

/-! ## The whole -/

/-- What came of a line: the result or the fault that has left the router, the router afterwards,
the panels that were painted, and what was asked for help. -/
structure Routed where
  outcome : Except Fault Result
  router : Router
  panels : List Panel
  trace : List Consultation

/-- The line has come to a result, which is a success or a failure. -/
def Routed.answers (routed : Routed) (success : Bool) : Bool :=
  match routed.outcome with
  | .ok result => result.success == success
  | .error _ => false

/-- The desk of a line, at its start: nothing is collected and nothing painted. -/
def startDesk (router : Router) : Desk :=
  { stage := Stage.empty, engine := router.engine, canvas := {}, ownLog := router.ownLog }

/-- The call of a line, at its start. -/
def startCall (router : Router) : Call :=
  { desk := router.startDesk, lastPhase := router.lastPhase }

/-- The console that a call paints on. -/
def consoleFor (router : Router) (context : Context) : Console :=
  context.target.resolve router.console

/-- What came of a line whose call has ended. -/
def close (router : Router) (outcome : Except Fault Result) (call : Call) : Routed where
  outcome
  router := { router with
    engine := call.desk.engine, ownLog := call.desk.ownLog, stage := call.desk.stage
    lastPhase := call.lastPhase }
  panels := call.desk.canvas.panels
  trace := call.trace

/-- Runs one line of input. -/
def route (router : Router) (input : String) (context : Context) : Routed :=
  let console := router.consoleFor context
  match router.dispatch console router.startCall context input with
  | (.ok result, call) => router.close (.ok result) call
  | (.error fault, call) =>
    let (outcome, call) := router.recoverFrom console call context input fault
    router.close outcome call

end Router

end SlashLine.Dispatch
