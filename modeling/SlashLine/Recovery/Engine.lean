import SlashLine.Fault.Log
import SlashLine.Recovery.Backoff
import SlashLine.Recovery.Sessions

/-!
# Automatic recovery

A recoverable fault is tried again as long as its session has attempts left. Before each attempt
there is a wait; then the action bound to the first thing that may help is run. For a network fault
without an action the wait itself is the recovery. When the action fails, the text of its fault is
noted and the next attempt is made; a fault that has no text to be noted ends the recovery.

* `runAttempts`: the waits and calls of one recovery, as a function of what the action does.
* `Engine.recover`: the same for a report, on behalf of a session.
-/

namespace SlashLine.Recovery

/-- What the n-th call of an action comes to, counted from 0: it succeeds, or it fails. -/
abbrev Action := Nat → Except Fault Unit

/-- Whether the n-th call of an action succeeds, counted from 0. -/
abbrev Script := Nat → Bool

namespace Script

/-- The script of a list of outcomes, the last of which repeats; without any, every call
succeeds. -/
def ofList (outcomes : List Bool) : Script := fun n =>
  match outcomes[n]? with
  | some ok => ok
  | none => (outcomes.getLast?).getD true

/-- The action that goes by a script, and fails with a fault that has a text. -/
def action (script : Script) : Action := fun n =>
  if script n then .ok () else .error (.other "RuntimeError" "action failed")

end Script

/-- How a recovery ends. -/
inductive Ending where
  | recovered
  | exhausted
  /-- The next wait is beyond every number. -/
  | overflowed
  /-- The action has failed with a fault whose text cannot be noted. -/
  | broken (trouble : Fault)
  deriving DecidableEq

/-- Something that a recovery does: it waits, or it calls the action of a label. -/
inductive Deed where
  | wait (delay : Binary64)
  | call (label : String)
  deriving DecidableEq

namespace Deed

/-- The wait. -/
def delay? : Deed → Option Binary64
  | wait delay => some delay
  | call _ => none

/-- The label of the action that is called. -/
def label? : Deed → Option String
  | wait _ => none
  | call label => some label

end Deed

/-- The course of one recovery: what is done, one after the other, how many attempts are made, and
the end. -/
structure Course where
  deeds : List Deed
  attempts : Nat
  ending : Ending
  deriving DecidableEq

namespace Course

/-- The waits of a course. -/
def delays (c : Course) : List Binary64 := c.deeds.filterMap Deed.delay?

/-- The course with one attempt before it, whose call fails. -/
def after (delay : Binary64) (label : String) (c : Course) : Course :=
  { c with deeds := .wait delay :: .call label :: c.deeds, attempts := c.attempts + 1 }

end Course

/-- The attempts of a recovery with the action of a label: so many are left, so many were made for
the session before, and so many calls of the action before. Each attempt, counted from one, has its
wait, or none. -/
def runAttempts (wait? : Nat → Option Binary64) (label : String) (action : Option Action) :
    (left made call : Nat) → Course
  | 0, _, _ => ⟨[], 0, .exhausted⟩
  | left + 1, made, call =>
    match wait? (made + 1) with
    | none => ⟨[], 1, .overflowed⟩
    | some delay =>
      match action with
      | none => ⟨[.wait delay], 1, .recovered⟩
      | some perform =>
        match perform call with
        | .ok () => ⟨[.wait delay, .call label], 1, .recovered⟩
        | .error fault =>
          match fault.message with
          | .error trouble => ⟨[.wait delay, .call label], 1, .broken trouble⟩
          | .ok _ => (runAttempts wait? label action left (made + 1) (call + 1)).after delay label

/-- What comes of a recovery. -/
structure Outcome where
  report : Report
  recovered : Bool
  exhausted : Bool
  attempts : Nat
  deriving DecidableEq

/-- What a recovery did, one after the other, and how many attempts it made. -/
structure Effects where
  deeds : List Deed := []
  attempts : Nat := 0
  deriving DecidableEq

namespace Effects

/-- The waits. -/
def delays (effects : Effects) : List Binary64 := effects.deeds.filterMap Deed.delay?

/-- The labels of the actions that were called. -/
def calls (effects : Effects) : List String := effects.deeds.filterMap Deed.label?

end Effects

/-- The log of reports, the back-off, and the attempts of the sessions. -/
structure Engine where
  log : Log
  backoff : Backoff
  sessions : Sessions

/-- What is added to the text for the user after a recovery. -/
def recoveredSuffix : String := " (Automatically recovered)"

/-- A report after its fault was recovered from. -/
def downgraded (report : Report) : Report :=
  { report with severity := .low, userMessage := report.userMessage ++ recoveredSuffix }

/-- The label that an action is looked up by: the first one, unless it is empty. -/
def actionLabel? (report : Report) : Option String := report.labels.head?.filter (!·.isEmpty)

/-- The action for a report. -/
def actionFor? {α : Type} (report : Report) (actions : Slots String α) : Option α :=
  (actionLabel? report).bind actions.get?

namespace Engine

/-- The session's attempts, after it is touched. -/
def touch (engine : Engine) (session : Option String) : Nat × Engine :=
  let sessions := engine.sessions.touch (Sessions.key session)
  (sessions.count (Sessions.key session), { engine with sessions })

/-- Forgets all reports and all attempts. -/
def clear (engine : Engine) : Engine :=
  { engine with log := engine.log.clear, sessions := engine.sessions.clear }

/-- Tries to recover from a classified fault, with so many attempts for the session at most. -/
def recover (engine : Engine) (report : Report) (session : Option String) (maxRetries : Int)
    (actions : Slots String Action) : Except Fault Outcome × Effects × Engine :=
  let untouched : Except Fault Outcome × Effects × Engine :=
    (.ok ⟨report, false, false, 0⟩, {}, engine)
  let action := actionFor? report actions
  if !report.recoverable || (action.isNone && report.category ≠ .network) then untouched
  else
    let key := Sessions.key session
    let (made, engine) := engine.touch session
    let course := runAttempts (engine.backoff.delay? ·) ((actionLabel? report).getD "") action
      (maxRetries - made).toNat made 0
    let engine :=
      { engine with sessions := engine.sessions.setCount key (made + course.attempts) }
    let result : Except Fault Outcome := match course.ending with
      | .recovered => .ok ⟨downgraded report, true, false, course.attempts⟩
      | .exhausted => .ok ⟨report, false, true, course.attempts⟩
      | .overflowed => .error Backoff.overflow
      | .broken trouble => .error trouble
    (result, { deeds := course.deeds, attempts := course.attempts }, engine)

/-- The session a fault is charged to: the one that is named, else the one of its context. -/
def chargedSession (session : Option String) (report : Report) : Option String :=
  (session.filter (!·.isEmpty)).or report.context.sessionId

/-- Classifies a fault, remembers the report, and tries to recover. -/
def attempt (engine : Engine) (fault : Fault) (context : FaultContext) (session : Option String)
    (maxRetries : Int) (actions : Slots String Action) :
    Except Fault Outcome × Effects × Engine :=
  match engine.log.record fault context with
  | (.error e, log) => (.error e, {}, { engine with log })
  | (.ok report, log) =>
    recover { engine with log } report (chargedSession session report) maxRetries actions

end Engine

end SlashLine.Recovery
