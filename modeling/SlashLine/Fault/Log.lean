import SlashLine.Fault.Classification
import SlashLine.Limit
import SlashLine.Slots

/-!
# The log of reports

Faults are classified and the latest reports are remembered, as the classifier has made them, up to
a fixed number. A fault that comes without a moment is dated by the clock.

* `Log.dated`: the circumstances of a fault, with the moment it is reported at.
* `Log.record_of_ok`, `Log.record_of_error`: a fault is classified and its report remembered; a
  classifier that fails itself leaves the log as it was.
* `Log.entries_push`: a new report goes first; the oldest one is dropped only from a full log.
* `Log.latest`: the reports, newest first.
* `Log.statistics`: how many reports there are by severity, category and operation.
-/

namespace SlashLine

/-- Turns a fault into a report, or fails in turn. -/
abbrev Classifier := Fault → FaultContext → Except Fault Report

/-- A bounded log of reports. -/
structure Log where
  classifier : Classifier
  capacity : Nat
  capacity_pos : 0 < capacity
  /-- What the clock shows when the n-th report is made, counted from 0. -/
  clock : Nat → Timestamp
  /-- How many reports have been made so far. -/
  made : Nat := 0
  /-- The reports that are remembered, newest first. -/
  entries : List Report := []
  fits : entries.length ≤ capacity := by exact Nat.zero_le _

/-- How often something occurs among the remembered reports. -/
abbrev Tally := Slots String Nat

/-- Counts over the remembered reports, and the newest of them. -/
structure Statistics where
  total : Nat
  bySeverity : Tally
  byCategory : Tally
  byOperation : Tally
  recent : List Report
  deriving DecidableEq

namespace Tally

/-- Counts one more of a name. -/
def add (tally : Tally) (name : String) : Tally := tally.set name ((tally.get? name).getD 0 + 1)

/-- How often each name occurs. -/
def ofNames (names : List String) : Tally := names.foldl add Slots.empty

end Tally

namespace Log

/-- Capacities start below this one. -/
def capacityBound : Nat := 0x8000000000000000

/-- Why there is no log of a capacity. -/
inductive BadCapacity where
  | notPositive
  | tooLarge
  deriving DecidableEq, Repr

/-- What is said about a capacity that no log has. -/
def BadCapacity.message : BadCapacity → String
  | notPositive => "history_size must be positive"
  | tooLarge => "Python int too large to convert to C ssize_t"

/-- An empty log of a given capacity, if that is positive and not too large. -/
def create (classifier : Classifier) (capacity : Int) (clock : Nat → Timestamp) :
    Except BadCapacity Log :=
  if h : 0 < capacity.toNat then
    if capacity.toNat < capacityBound then
      .ok { classifier, capacity := capacity.toNat, capacity_pos := h, clock }
    else .error .tooLarge
  else .error .notPositive

/-- The number of remembered reports. -/
def size (log : Log) : Nat := log.entries.length

/-- Adds a report; the oldest one is dropped if there is no room. -/
def push (log : Log) (report : Report) : Log :=
  { log with
    made := log.made + 1
    entries := (report :: log.entries).take log.capacity
    fits := List.length_take_le _ _ }

theorem entries_push (log : Log) (report : Report) :
    (log.push report).entries =
      report :: (if log.size < log.capacity then log.entries else log.entries.dropLast) := by
  obtain ⟨n, hn⟩ := Nat.exists_eq_succ_of_ne_zero (Nat.ne_of_gt log.capacity_pos)
  have hfits := log.fits
  simp only [push, size, hn, List.take_succ_cons, List.cons.injEq, true_and]
  split
  · exact List.take_of_length_le (by omega)
  · rw [List.dropLast_eq_take]
    congr 1
    omega

/-- The circumstances of a fault. The clock fills in the moment where none is given. -/
def dated (log : Log) (context : FaultContext) : FaultContext :=
  { context with timestamp := context.timestamp.or (some (log.clock log.made)) }

/-- Classifies a fault and remembers the report. -/
def record (log : Log) (fault : Fault) (context : FaultContext) : Except Fault Report × Log :=
  match log.classifier fault (log.dated context) with
  | .error e => (.error e, log)
  | .ok report => (.ok report, log.push report)

theorem record_of_ok {log : Log} {fault : Fault} {context : FaultContext} {report : Report}
    (h : log.classifier fault (log.dated context) = .ok report) :
    log.record fault context = (.ok report, log.push report) := by
  rw [record, h]

theorem record_of_error {log : Log} {fault : Fault} {context : FaultContext} {e : Fault}
    (h : log.classifier fault (log.dated context) = .error e) :
    log.record fault context = (.error e, log) := by
  rw [record, h]

/-- The reports, newest first, up to a limit. -/
def latest (log : Log) (limit : Option Int) : List Report := limitedBy limit log.entries

/-- Forgets all reports. -/
def clear (log : Log) : Log := { log with entries := [], fits := Nat.zero_le _ }

/-- The counts over the remembered reports. -/
def statistics (log : Log) : Statistics :=
  let oldestFirst := log.entries.reverse
  { total := log.size
    bySeverity := .ofNames (oldestFirst.map (·.severity.name))
    byCategory := .ofNames (oldestFirst.map (·.category.name))
    byOperation := .ofNames (oldestFirst.map (·.context.operation))
    recent := log.latest (some 10) }

end Log

end SlashLine
