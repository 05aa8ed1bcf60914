import SlashLine.Proofs.Recovery.Ledger
import SlashLine.Recovery.Engine

/-!
# What is asked of an engine

An engine is asked for the attempts of a session, to recover from a report or from a fault, and to
forget everything. `Engine.Writes` lists what each request writes in the ledger; the waits in it are
those that the engine really made. Every later statement about runs is an induction over the
requests with this list as its cases.

* `waits_runAttempts`, `attempts_runAttempts_le`: the course of one recovery.
* `Engine.recover_of_retried`, `Engine.recover_of_not_retried`: a recovery for a session.
* `Engine.Writes`, `Engine.exists_writes`: what a request writes in the ledger.
* `Engine.LeadsTo.describes`: after any requests the ledger agrees with the sessions.
-/

namespace SlashLine.Recovery

open Ledger

/-! ## The course of a recovery -/

/-- Waits, one for each of so many attempts, the last of which may have none. -/
def waitsFor (delays : List Binary64) (attempts : Nat) : List (Option Binary64) :=
  delays.map some ++ (if delays.length < attempts then [none] else [])

theorem waitsFor_cons (delay : Binary64) (delays : List Binary64) (attempts : Nat) :
    waitsFor (delay :: delays) (attempts + 1) = some delay :: waitsFor delays attempts := by
  rw [waitsFor, waitsFor, List.map_cons, List.cons_append, List.length_cons]
  simp only [Nat.add_lt_add_iff_right]

/-- The waits of a course, one for each attempt; the last attempt of one that overflows has none. -/
def Course.waits (c : Course) : List (Option Binary64) := waitsFor c.delays c.attempts

/-- The attempts go on counting where those made before have stopped. -/
theorem waits_runAttempts (wait? : Nat → Option Binary64) (label : String)
    (action : Option Action) (left made call : Nat) :
    (runAttempts wait? label action left made call).waits =
      (List.range' (made + 1) (runAttempts wait? label action left made call).attempts).map
        wait? := by
  induction left generalizing made call with
  | zero => rfl
  | succ left ih =>
    rw [runAttempts]
    have hone : [wait? (made + 1)] = (List.range' (made + 1) 1).map wait? := rfl
    cases hwait : wait? (made + 1) with
    | none =>
      rw [hwait] at hone
      exact hone
    | some delay =>
      rw [hwait] at hone
      cases action with
      | none => exact hone
      | some perform =>
        dsimp only
        cases perform call with
        | ok done => exact hone
        | error fault =>
          dsimp only
          cases fault.message with
          | error trouble => exact hone
          | ok text =>
            have hlater := ih (made + 1) (call + 1)
            generalize runAttempts wait? label (some perform) left (made + 1) (call + 1) = later
              at hlater
            calc (later.after delay label).waits
                = some delay :: later.waits := waitsFor_cons _ _ _
              _ = (List.range' (made + 1) (later.attempts + 1)).map wait? := by
                rw [hlater, List.range'_succ, List.map_cons, hwait]

/-- No more attempts are made than are left. -/
theorem attempts_runAttempts_le (wait? : Nat → Option Binary64) (label : String)
    (action : Option Action) (left made call : Nat) :
    (runAttempts wait? label action left made call).attempts ≤ left := by
  induction left generalizing made call with
  | zero => exact Nat.le_refl 0
  | succ left ih =>
    have hone : 1 ≤ left + 1 := Nat.succ_le_succ (Nat.zero_le left)
    rw [runAttempts]
    cases wait? (made + 1) with
    | none => exact hone
    | some delay =>
      cases action with
      | none => exact hone
      | some perform =>
        dsimp only
        cases perform call with
        | ok done => exact hone
        | error fault =>
          dsimp only
          cases fault.message with
          | error trouble => exact hone
          | ok text => exact Nat.succ_le_succ (ih (made + 1) (call + 1))

/-- Before every attempt there is one wait. -/
theorem length_waits_runAttempts (wait? : Nat → Option Binary64) (label : String)
    (action : Option Action) (left made call : Nat) :
    (runAttempts wait? label action left made call).waits.length =
      (runAttempts wait? label action left made call).attempts := by
  rw [waits_runAttempts, List.length_map, List.length_range']

/-! ## A recovery for a session -/

/-- A report that a recovery works on: it is recoverable, and an action is bound to its first
label, which is not empty, or it is about the network. -/
def Retried {α : Type} (report : Report) (actions : Slots String α) : Prop :=
  report.recoverable = true ∧
    ((∃ label later, report.labels = label :: later ∧ label ≠ "" ∧ label ∈ actions.keys) ∨
      report.category = .network)

/-- The waits of a recovery, one for each attempt; the last attempt has none if its wait is beyond
every number. -/
def waitsOf (effects : Effects) : List (Option Binary64) := waitsFor effects.delays effects.attempts

section

variable {α : Type} {report : Report} {actions : Slots String α}

/-- There is an action exactly if one is bound to the first label and that label is not empty. -/
theorem actionFor?_isSome_iff : (actionFor? report actions).isSome = true ↔
    ∃ label later, report.labels = label :: later ∧ label ≠ "" ∧ label ∈ actions.keys := by
  unfold actionFor? actionLabel?
  cases hlabels : report.labels with
  | nil => simp
  | cons label later =>
    by_cases hempty : label = ""
    · subst hempty
      simp
    · have hkept : (some label).filter (fun l => !l.isEmpty) = some label := by
        simp [hempty]
      rw [List.head?_cons, hkept, Option.bind_some]
      constructor
      · intro h
        exact ⟨label, later, rfl, hempty, (actions.contains_iff label).mp h⟩
      · rintro ⟨label', later', heq, -, h⟩
        obtain ⟨rfl, rfl⟩ := List.cons.inj heq
        exact (actions.contains_iff label).mpr h

theorem not_retried_iff : ¬ Retried report actions ↔
    (!report.recoverable ||
      ((actionFor? report actions).isNone && report.category ≠ .network)) = true := by
  unfold Retried
  rw [← actionFor?_isSome_iff]
  cases report.recoverable <;> cases actionFor? report actions <;> simp

end

variable {engine : Engine} {report : Report} {session : Option String} {maxRetries : Int}
  {actions : Slots String Action}

/-- What comes of a recovery that has made so many attempts when it ends. -/
def Ending.result (report : Report) (attempts : Nat) : Ending → Except Fault Outcome
  | .recovered => .ok ⟨downgraded report, true, false, attempts⟩
  | .exhausted => .ok ⟨report, false, true, attempts⟩
  | .overflowed => .error Backoff.overflow
  | .broken trouble => .error trouble

/-- What comes of a recovery with this course. -/
def Course.result (report : Report) (c : Course) : Except Fault Outcome :=
  c.ending.result report c.attempts

namespace Engine

/-- A report that is not retried is returned as it is, and nothing is done about it. -/
theorem recover_of_not_retried (h : ¬ Retried report actions) :
    engine.recover report session maxRetries actions =
      (.ok ⟨report, false, false, 0⟩, {}, engine) :=
  if_pos (not_retried_iff.mp h)

/-- The course of a recovery for a session. -/
def courseFor (engine : Engine) (report : Report) (session : Option String) (maxRetries : Int)
    (actions : Slots String Action) : Course :=
  let made := engine.sessions.count (Sessions.key session)
  runAttempts (engine.backoff.delay? ·) ((actionLabel? report).getD "") (actionFor? report actions)
    (maxRetries - made).toNat made 0

/-- The engine after a session was touched and so many attempts were made for it. -/
def charged (engine : Engine) (key : String) (attempts : Nat) : Engine :=
  { engine with
    sessions := (engine.sessions.touch key).setCount key (engine.sessions.count key + attempts) }

theorem recover_eq_of_retried (engine : Engine) (session : Option String) (maxRetries : Int)
    (h : Retried report actions) :
    engine.recover report session maxRetries actions =
      ((engine.courseFor report session maxRetries actions).result report,
        { deeds := (engine.courseFor report session maxRetries actions).deeds
          attempts := (engine.courseFor report session maxRetries actions).attempts },
        engine.charged (Sessions.key session)
          (engine.courseFor report session maxRetries actions).attempts) := by
  have hmade : (engine.touch session).1 = engine.sessions.count (Sessions.key session) :=
    Sessions.count_touch_self engine.sessions (Sessions.key session)
  have hgate : ¬ (!report.recoverable ||
      ((actionFor? report actions).isNone && report.category ≠ .network)) = true :=
    fun hnot => not_retried_iff.mpr hnot h
  unfold recover
  simp only [if_neg hgate, hmade]
  rfl

/-- A report that is retried costs its session the attempts that are made. -/
theorem recover_of_retried (engine : Engine) (session : Option String) (maxRetries : Int)
    (h : Retried report actions) :
    waitsOf (engine.recover report session maxRetries actions).2.1 =
      (engine.courseFor report session maxRetries actions).waits ∧
    (engine.recover report session maxRetries actions).2.2 =
      engine.charged (Sessions.key session)
        (engine.courseFor report session maxRetries actions).attempts := by
  rw [engine.recover_eq_of_retried session maxRetries h]
  exact ⟨rfl, rfl⟩

end Engine

/-! ## Requests -/

/-- Something that is asked of an engine. -/
inductive Request where
  /-- The attempts of a session. -/
  | state (session : Option String)
  /-- To recover from a fault that is classified already. -/
  | recover (report : Report) (session : Option String) (maxRetries : Int)
      (actions : Slots String Action)
  /-- To classify a fault and to recover from it. -/
  | attempt (fault : Fault) (context : FaultContext) (session : Option String) (maxRetries : Int)
      (actions : Slots String Action)
  /-- To forget all reports and all attempts. -/
  | clear

namespace Engine

/-- The engine after a request. -/
def after (engine : Engine) : Request → Engine
  | .state session => (engine.touch session).2
  | .recover report session maxRetries actions =>
    (engine.recover report session maxRetries actions).2.2
  | .attempt fault context session maxRetries actions =>
    (engine.attempt fault context session maxRetries actions).2.2
  | .clear => engine.clear

/-- The attempts of a recovery, as they are written in the ledger. -/
def attemptsOf (engine : Engine) (report : Report) (session : Option String) (maxRetries : Int)
    (actions : Slots String Action) : List Attempt :=
  (waitsOf (engine.recover report session maxRetries actions).2.1).map fun wait =>
    ⟨maxRetries, wait⟩

/-- What a request makes of the ledger. -/
inductive Writes : Engine → Request → Ledger → Ledger → Prop
  | state {engine : Engine} {session : Option String} {past : Ledger} :
      Writes engine (.state session) past (.touch (Sessions.key session) :: past)
  | retried {engine : Engine} {report : Report} {session : Option String} {maxRetries : Int}
      {actions : Slots String Action} {past : Ledger} (hretried : Retried report actions) :
      Writes engine (.recover report session maxRetries actions) past
        (afterAttempts (Sessions.key session) (.touch (Sessions.key session) :: past)
          (engine.attemptsOf report session maxRetries actions))
  | passedOver {engine : Engine} {report : Report} {session : Option String} {maxRetries : Int}
      {actions : Slots String Action} {past : Ledger} (hretried : ¬ Retried report actions) :
      Writes engine (.recover report session maxRetries actions) past past
  | classified {engine : Engine} {fault : Fault} {context : FaultContext}
      {session : Option String} {maxRetries : Int} {actions : Slots String Action}
      {past later : Ledger} {report : Report} {log : Log}
      (hrecord : engine.log.record fault context = (.ok report, log))
      (hrecovery : Writes { engine with log }
        (.recover report (chargedSession session report) maxRetries actions) past later) :
      Writes engine (.attempt fault context session maxRetries actions) past later
  | unclassified {engine : Engine} {fault : Fault} {context : FaultContext}
      {session : Option String} {maxRetries : Int} {actions : Slots String Action}
      {past : Ledger} {e : Fault} {log : Log}
      (hrecord : engine.log.record fault context = (.error e, log)) :
      Writes engine (.attempt fault context session maxRetries actions) past past
  | clear {engine : Engine} {past : Ledger} : Writes engine .clear past (.clear :: past)

theorem exists_writes (engine : Engine) (request : Request) (past : Ledger) :
    ∃ later, engine.Writes request past later := by
  have hrecover : ∀ (engine : Engine) report session maxRetries actions,
      ∃ later, engine.Writes (.recover report session maxRetries actions) past later := by
    intro engine report session maxRetries actions
    by_cases hretried : Retried report actions
    · exact ⟨_, .retried hretried⟩
    · exact ⟨_, .passedOver hretried⟩
  cases request with
  | state session => exact ⟨_, .state⟩
  | recover report session maxRetries actions => exact hrecover engine _ _ _ _
  | attempt fault context session maxRetries actions =>
    cases hrecord : engine.log.record fault context with
    | mk outcome log =>
      cases outcome with
      | error e => exact ⟨_, .unclassified hrecord⟩
      | ok report =>
        obtain ⟨later, hlater⟩ := hrecover { engine with log } report
          (chargedSession session report) maxRetries actions
        exact ⟨later, .classified hrecord hlater⟩
  | clear => exact ⟨_, .clear⟩

variable {fault : Fault} {context : FaultContext} {log : Log} {past later : Ledger}
  {request : Request}

theorem after_of_classified (h : engine.log.record fault context = (.ok report, log)) :
    engine.after (.attempt fault context session maxRetries actions) =
      after { engine with log }
        (.recover report (chargedSession session report) maxRetries actions) := by
  simp only [after, attempt, h]

theorem after_of_unclassified {e : Fault}
    (h : engine.log.record fault context = (.error e, log)) :
    engine.after (.attempt fault context session maxRetries actions) = { engine with log } := by
  simp only [after, attempt, h]

theorem after_of_retried (h : Retried report actions) :
    engine.after (.recover report session maxRetries actions) =
      engine.charged (Sessions.key session)
        (engine.attemptsOf report session maxRetries actions).length := by
  obtain ⟨hwaits, hafter⟩ := engine.recover_of_retried session maxRetries h
  rw [attemptsOf, List.length_map, hwaits, courseFor, length_waits_runAttempts]
  exact hafter

theorem after_of_not_retried (h : ¬ Retried report actions) :
    engine.after (.recover report session maxRetries actions) = engine := by
  rw [after, recover_of_not_retried h]

/-- To recover from a report logs nothing. -/
theorem log_after_recover (engine : Engine) (report : Report) (session : Option String)
    (maxRetries : Int) (actions : Slots String Action) :
    (engine.after (.recover report session maxRetries actions)).log = engine.log := by
  by_cases hretried : Retried report actions
  · rw [after_of_retried hretried]
    rfl
  · rw [after_of_not_retried hretried]

namespace Writes

/-- Nothing that is asked of an engine changes its back-off or the room for its sessions. -/
theorem settings (h : engine.Writes request past later) :
    (engine.after request).backoff = engine.backoff ∧
      (engine.after request).sessions.limit = engine.sessions.limit := by
  induction h with
  | state => exact ⟨rfl, rfl⟩
  | retried hretried =>
    rw [after_of_retried hretried]
    exact ⟨rfl, Sessions.limit_setCount _ _ _⟩
  | passedOver hretried =>
    rw [after_of_not_retried hretried]
    exact ⟨rfl, rfl⟩
  | classified hrecord hrecovery ih =>
    rw [after_of_classified hrecord]
    exact ih
  | unclassified hrecord =>
    rw [after_of_unclassified hrecord]
    exact ⟨rfl, rfl⟩
  | clear => exact ⟨rfl, rfl⟩

/-- After a request the ledger still describes the sessions. -/
theorem describes (h : engine.Writes request past later) (hpast : past.Describes engine.sessions) :
    later.Describes (engine.after request).sessions := by
  induction h with
  | state => exact hpast.touch _
  | @retried engine report session maxRetries actions past hretried =>
    have htouched := hpast.touch (Sessions.key session)
    have hmade := htouched.attempts (Sessions.mem_touch_self engine.sessions (Sessions.key session))
      (engine.attemptsOf report session maxRetries actions)
    rw [Sessions.count_touch_self] at hmade
    rw [after_of_retried hretried]
    exact hmade
  | passedOver hretried =>
    rw [after_of_not_retried hretried]
    exact hpast
  | classified hrecord hrecovery ih =>
    rw [after_of_classified hrecord]
    exact ih hpast
  | unclassified hrecord =>
    rw [after_of_unclassified hrecord]
    exact hpast
  | clear => exact .clear _ _

end Writes

/-! ## Runs -/

/-- What any sequence of requests makes of an engine, with the ledger of the sequence. -/
inductive LeadsTo (start : Engine) : Ledger → Engine → Prop
  | start : LeadsTo start [] start
  | next {engine : Engine} {request : Request} {past later : Ledger}
      (hpast : LeadsTo start past engine) (hwrites : engine.Writes request past later) :
      LeadsTo start later (engine.after request)

namespace LeadsTo

variable {start : Engine}

theorem settings (h : start.LeadsTo past engine) :
    engine.backoff = start.backoff ∧ engine.sessions.limit = start.sessions.limit := by
  induction h with
  | start => exact ⟨rfl, rfl⟩
  | next hpast hwrites ih =>
    obtain ⟨hbackoff, hlimit⟩ := hwrites.settings
    exact ⟨hbackoff.trans ih.1, hlimit.trans ih.2⟩

/-- So it does after every history that starts without sessions. -/
theorem describes (hnone : start.sessions.attempts = Slots.empty)
    (h : start.LeadsTo past engine) : past.Describes engine.sessions := by
  induction h with
  | start => exact describes_nil hnone
  | next hpast hwrites ih => exact hwrites.describes ih

end LeadsTo

end Engine

end SlashLine.Recovery
