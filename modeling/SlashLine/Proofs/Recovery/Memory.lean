import SlashLine.Proofs.Fault.Tally
import SlashLine.Proofs.Recovery.Tracking

/-!
# What a log remembers

All that is ever reported is written down in a journal without bounds, the newest first, and so is
every time that all reports are forgotten. The log keeps the first reports of the journal, as many
as it has room for. What a call does to the log is said once, in `Engine.log_answer_cases`; the rest
is an induction over the calls, each of which may find another classifier in place.

* `Journal.reports`: the reports made since all were forgotten.
* `Engine.noted`: what a call writes in the journal.
* `Log.Keeps`: the log has the first reports of the journal.
* `Engine.LeavesJournal.remembers_latest`: what a log and its statistics hold after any calls.
-/

namespace SlashLine

/-! ## The journal -/

/-- Something that happens to a log. -/
inductive LogEvent where
  | made (report : Report)
  | forgotten

/-- What happened to a log, the newest first. -/
abbrev Journal := List LogEvent

namespace Journal

/-- The reports made since all were forgotten, the newest first. -/
def reports : Journal → List Report
  | [] => []
  | .made report :: past => report :: reports past
  | .forgotten :: _ => []

end Journal

namespace Log

variable {log : Log} {past : Journal}

/-- The log has the first reports of the journal, as many as there is room for. -/
def Keeps (log : Log) (past : Journal) : Prop := log.entries = past.reports.take log.capacity

theorem Keeps.push (h : log.Keeps past) (report : Report) :
    (log.push report).Keeps (.made report :: past) := by
  obtain ⟨room, hroom⟩ := Nat.exists_eq_succ_of_ne_zero (Nat.ne_of_gt log.capacity_pos)
  have hentries : log.entries = past.reports.take (room + 1) := by rw [h, hroom]
  show (report :: log.entries).take log.capacity = (report :: past.reports).take log.capacity
  rw [hroom, hentries, List.take_succ_cons, List.take_succ_cons, List.take_take,
    Nat.min_eq_left (Nat.le_succ room)]

theorem Keeps.clear (log : Log) (past : Journal) : log.clear.Keeps (.forgotten :: past) :=
  List.take_nil.symm

/-- The report that is made of a fault, unless the classifier fails. -/
def report? (log : Log) (fault : Fault) (context : FaultContext) : Option Report :=
  match log.classifier fault (log.dated context) with
  | .ok report => some report
  | .error _ => none

/-- A fault is reported and the report logged, or it is not reported and the log stays as it was. -/
theorem record_cases (log : Log) (fault : Fault) (context : FaultContext) :
    (∃ report, log.report? fault context = some report ∧
      log.record fault context = (.ok report, log.push report)) ∨
    ∃ e, log.report? fault context = none ∧ log.record fault context = (.error e, log) := by
  cases hclassified : log.classifier fault (log.dated context) with
  | ok report =>
    refine Or.inl ⟨report, ?_, record_of_ok hclassified⟩
    rw [report?, hclassified]
  | error e =>
    refine Or.inr ⟨e, ?_, record_of_error hclassified⟩
    rw [report?, hclassified]

end Log

namespace Recovery

/-! ## Calls -/

/-- Something that is asked of a log, or of an engine around it. -/
inductive LogCall where
  /-- To classify a fault, without recovering from it. -/
  | handle (fault : Fault) (context : FaultContext)
  /-- To forget the reports, and no attempts. -/
  | forget
  | request (request : Request)

/-- The fault that is to be classified. -/
def LogCall.fault? : LogCall → Option (Fault × FaultContext)
  | .handle fault context => some (fault, context)
  | .request (.attempt fault context _ _ _) => some (fault, context)
  | _ => none

namespace Engine

variable {engine start : Engine} {past : Journal}

/-- The engine after a call. -/
def answer (engine : Engine) : LogCall → Engine
  | .handle fault context => { engine with log := (engine.log.record fault context).2 }
  | .forget => { engine with log := engine.log.clear }
  | .request request => engine.after request

/-- What a call writes in the journal. -/
def noted (engine : Engine) : LogCall → Journal
  | .handle fault context => (engine.log.report? fault context).toList.map .made
  | .forget => [.forgotten]
  | .request (.attempt fault context _ _ _) => (engine.log.report? fault context).toList.map .made
  | .request .clear => [.forgotten]
  | .request _ => []

theorem log_after_attempt (engine : Engine) (fault : Fault) (context : FaultContext)
    (session : Option String) (maxRetries : Int) (actions : Slots String Action) :
    (engine.after (.attempt fault context session maxRetries actions)).log =
      (engine.log.record fault context).2 := by
  rcases engine.log.record_cases fault context with ⟨report, -, hrecord⟩ | ⟨e, -, hrecord⟩
  · rw [after_of_classified hrecord, log_after_recover, hrecord]
  · rw [after_of_unclassified hrecord, hrecord]

/-- A call adds one report to the log, or empties it, or leaves it alone. -/
theorem log_answer_cases (engine : Engine) (call : LogCall) :
    (∃ report, engine.noted call = [.made report] ∧
      (engine.answer call).log = engine.log.push report) ∨
    (engine.noted call = [.forgotten] ∧ (engine.answer call).log = engine.log.clear) ∨
    (engine.noted call = [] ∧ (engine.answer call).log = engine.log) := by
  have hclassify (fault : Fault) (context : FaultContext) :
      (∃ report, (engine.log.report? fault context).toList.map LogEvent.made = [.made report] ∧
        (engine.log.record fault context).2 = engine.log.push report) ∨
      ((engine.log.report? fault context).toList.map LogEvent.made = [] ∧
        (engine.log.record fault context).2 = engine.log) := by
    rcases engine.log.record_cases fault context with
      ⟨report, hreport, hrecord⟩ | ⟨e, hreport, hrecord⟩
    · exact Or.inl ⟨report, by rw [hreport]; rfl, by rw [hrecord]⟩
    · exact Or.inr ⟨by rw [hreport]; rfl, by rw [hrecord]⟩
  cases call with
  | handle fault context => exact (hclassify fault context).imp_right Or.inr
  | forget => exact Or.inr (Or.inl ⟨rfl, rfl⟩)
  | request request =>
    cases request with
    | state session => exact Or.inr (Or.inr ⟨rfl, rfl⟩)
    | recover report session maxRetries actions =>
      exact Or.inr (Or.inr ⟨rfl, log_after_recover engine report session maxRetries actions⟩)
    | attempt fault context session maxRetries actions =>
      have hlog := engine.log_after_attempt fault context session maxRetries actions
      rw [answer, hlog]
      exact (hclassify fault context).imp_right Or.inr
    | clear => exact Or.inr (Or.inl ⟨rfl, rfl⟩)

/-- Whatever a log is asked for, it goes on keeping its journal. -/
theorem keeps_answer (h : engine.log.Keeps past) (call : LogCall) :
    (engine.answer call).log.Keeps (engine.noted call ++ past) := by
  rcases engine.log_answer_cases call with ⟨report, hnoted, hlog⟩ | ⟨hnoted, hlog⟩ | ⟨hnoted, hlog⟩
  · rw [hnoted, hlog]
    exact h.push report
  · rw [hnoted, hlog]
    exact .clear engine.log past
  · rw [hnoted, hlog]
    exact h

theorem capacity_answer (engine : Engine) (call : LogCall) :
    (engine.answer call).log.capacity = engine.log.capacity := by
  rcases engine.log_answer_cases call with ⟨report, -, hlog⟩ | ⟨-, hlog⟩ | ⟨-, hlog⟩ <;>
    rw [hlog] <;> rfl

/-! ## Recovered reports -/

/-- A recovery returns the report that it was given, downgraded if it succeeded. -/
theorem report_of_recover {report : Report} {session : Option String} {maxRetries : Int}
    {actions : Slots String Action} {outcome : Outcome}
    (h : (engine.recover report session maxRetries actions).1 = .ok outcome) :
    outcome.report = if outcome.recovered then downgraded report else report := by
  unfold recover at h
  dsimp only at h
  split at h
  · cases h
    rfl
  · dsimp only at h
    split at h
    · cases h
      rfl
    · cases h
      rfl
    · cases h
    · cases h

/-- An attempt returns the report on its fault, downgraded if it succeeded. -/
theorem report_of_attempt {fault : Fault} {context : FaultContext} {session : Option String}
    {maxRetries : Int} {actions : Slots String Action} {outcome : Outcome}
    (h : (engine.attempt fault context session maxRetries actions).1 = .ok outcome) :
    ∃ report, engine.log.report? fault context = some report ∧
      outcome.report = if outcome.recovered then downgraded report else report := by
  rcases engine.log.record_cases fault context with ⟨report, hreport, hrecord⟩ | ⟨e, -, hrecord⟩
  · simp only [attempt, hrecord] at h
    exact ⟨report, hreport, report_of_recover h⟩
  · simp only [attempt, hrecord] at h
    cases h

/-! ## Runs -/

/-- The engine with another classifier in place. -/
def classifying (engine : Engine) (classifier : Classifier) : Engine :=
  { engine with log := { engine.log with classifier } }

/-- What any calls make of an engine, with the journal of the calls. The classifier may be another
one at every call. -/
inductive LeavesJournal (start : Engine) : Journal → Engine → Prop
  | start : LeavesJournal start [] start
  | next {past : Journal} {engine : Engine} (hpast : LeavesJournal start past engine)
      (classifier : Classifier) (call : LogCall) :
      LeavesJournal start ((engine.classifying classifier).noted call ++ past)
        ((engine.classifying classifier).answer call)

namespace LeavesJournal

theorem capacity (h : start.LeavesJournal past engine) :
    engine.log.capacity = start.log.capacity := by
  induction h with
  | start => rfl
  | next hpast classifier call ih =>
    rw [capacity_answer]
    exact ih

/-- From an empty log on every history is kept. -/
theorem keeps (hempty : start.log.entries = []) (h : start.LeavesJournal past engine) :
    engine.log.Keeps past := by
  induction h with
  | start => exact hempty.trans List.take_nil.symm
  | @next past engine hpast classifier call ih =>
    have hkept : (engine.classifying classifier).log.Keeps past := ih
    exact keeps_answer hkept call

end LeavesJournal

theorem log_answer_of_error {call : LogCall} {fault e : Fault} {context : FaultContext}
    (hfault : call.fault? = some (fault, context))
    (herror : engine.log.classifier fault (engine.log.dated context) = .error e) :
    (engine.answer call).log = engine.log := by
  have hrecord := Log.record_of_error herror
  cases call with
  | handle fault' context' =>
    cases hfault
    rw [answer, hrecord]
  | forget => cases hfault
  | request request =>
    cases request with
    | attempt fault' context' session maxRetries actions =>
      cases hfault
      rw [answer, log_after_attempt, hrecord]
    | state session => cases hfault
    | recover report session maxRetries actions => cases hfault
    | clear => cases hfault

/-- The latest entry is the report as the classifier made it, and not the one that was
downgraded. -/
theorem head?_answer_attempt {fault : Fault} {context : FaultContext} {report : Report}
    (hreport : engine.log.report? fault context = some report) (session : Option String)
    (maxRetries : Int) (actions : Slots String Action) :
    (engine.answer
      (.request (.attempt fault context session maxRetries actions))).log.entries.head? =
      some report := by
  rcases engine.log.record_cases fault context with ⟨made, hmade, hrecord⟩ | ⟨e, hnone, -⟩
  · rw [hmade] at hreport
    cases hreport
    rw [answer, log_after_attempt, hrecord, Log.entries_push]
    rfl
  · rw [hnone] at hreport
    cases hreport

/-- The log has the latest of the reports made since all were forgotten, as many as there is room
for, and its statistics are about these. Whatever classifier is in place at the next call: if it
fails, the log stays as it is; if it does not, the report it makes is the newest one in the log, and
stays what it is if the fault is recovered from and the report handed out is a milder one. -/
theorem LeavesJournal.remembers_latest (hempty : start.log.entries = [])
    (h : start.LeavesJournal past engine) :
    let kept := past.reports.take start.log.capacity
    engine.log.latest none = kept ∧
    (∀ limit : Nat, engine.log.latest (some limit) = kept.take limit) ∧
    kept.length ≤ start.log.capacity ∧
    engine.log.statistics.Summarizes kept ∧
    ∀ classifier : Classifier,
      let asked := engine.classifying classifier
      (∀ (call : LogCall) (fault e : Fault) (context : FaultContext),
        call.fault? = some (fault, context) →
          classifier fault (asked.log.dated context) = .error e →
            (asked.answer call).log.entries = kept) ∧
      (∀ (fault : Fault) (context : FaultContext) (session : Option String) (budget : Int)
        (actions : Slots String Action) (outcome : Outcome),
        (asked.attempt fault context session budget actions).1 = .ok outcome →
          ∃ report, asked.log.report? fault context = some report ∧
            (asked.answer
              (.request (.attempt fault context session budget actions))).log.entries.head? =
              some report ∧
            outcome.report = if outcome.recovered then downgraded report else report) ∧
      ∀ (report : Report) (session : Option String) (budget : Int) (actions : Slots String Action),
        (asked.answer (.request (.recover report session budget actions))).log.entries = kept := by
  have hkept : engine.log.entries = past.reports.take start.log.capacity := by
    rw [← h.capacity]
    exact h.keeps hempty
  dsimp only
  rw [← hkept]
  refine ⟨rfl, fun limit => limited_natCast limit _, h.capacity ▸ engine.log.fits,
    engine.log.statistics_summarizes, fun classifier => ⟨?_, ?_, ?_⟩⟩
  · intro call fault e context hfault herror
    rw [log_answer_of_error hfault herror]
    rfl
  · intro fault context session budget actions outcome houtcome
    obtain ⟨report, hreport, hhanded⟩ := report_of_attempt houtcome
    exact ⟨report, hreport, head?_answer_attempt hreport session budget actions, hhanded⟩
  · intro report session budget actions
    rw [answer, log_after_recover]
    rfl

/-- A classifier that fails. -/
def brokenClassifier : Classifier := fun _ _ => .error (.other "RuntimeError" "classifier broke")

/-- A fault that is refused, one that cannot be classified, one that is recovered from, and one that
is only classified. -/
def refusedFault : LogCall := .handle (.other "PermissionError" "access denied") {}
def puzzlingFault : LogCall := .handle (.other "KeyError" "settings") {}
def delayedFault : LogCall :=
  .request (.attempt (.other "TimeoutError" "timed out") {} (some "s") 3 Slots.empty)
def conflictingFault : LogCall := .handle (.other "FileExistsError" "already exists") {}

/-- An engine with room for two reports after the four faults. -/
def afterFaults : Engine :=
  let working := roomForTwo.log.classifier
  let puzzled := ((roomForTwo.classifying working).answer refusedFault).classifying brokenClassifier
  let delayed := ((puzzled.answer puzzlingFault).classifying working).answer delayedFault
  (delayed.classifying working).answer conflictingFault

theorem LeavesJournal.remembers_last_two :
    roomForTwo.log.entries = [] ∧
    ∃ past, roomForTwo.LeavesJournal past afterFaults ∧
      past.reports.map (·.category) = [.fileAlreadyExists, .network, .permissionDenied] ∧
      (afterFaults.log.latest none).map (·.category) = [.fileAlreadyExists, .network] ∧
      afterFaults.log.statistics.total = 2 ∧
      (afterFaults.log.statistics.bySeverity.get? "medium").getD 0 = 1 := by
  have hstart : roomForTwo.LeavesJournal [] roomForTwo := .start
  have hpuzzled := (hstart.next roomForTwo.log.classifier refusedFault).next brokenClassifier
    puzzlingFault
  have hrun := (hpuzzled.next roomForTwo.log.classifier delayedFault).next
    roomForTwo.log.classifier conflictingFault
  obtain ⟨past, hleaves, hcategories, hmedium⟩ :
      ∃ past, roomForTwo.LeavesJournal past afterFaults ∧
        past.reports.map (·.category) = [.fileAlreadyExists, .network, .permissionDenied] ∧
        (past.reports.take 2).countP (·.severity.name = "medium") = 1 :=
    ⟨_, hrun, by decide +kernel, by decide +kernel⟩
  obtain ⟨hlatest, -, -, hstatistics, -⟩ := LeavesJournal.remembers_latest rfl hleaves
  refine ⟨rfl, past, hleaves, hcategories, ?_, ?_, ?_⟩
  · rw [hlatest, List.map_take, hcategories]
    rfl
  · have hlength := congrArg List.length hcategories
    rw [List.length_map] at hlength
    rw [hstatistics.total, List.length_take, hlength]
    rfl
  · exact (hstatistics.severities.count "medium").trans hmedium

end Engine

end Recovery

end SlashLine
