import Mathlib.Algebra.GroupWithZero.Nat
import SlashLine.Fault.Log

/-!
# Counting reports

The statistics of a log are made anew from its reports every time: each report is counted under the
names of its severity, of its category and of its operation. A tally that counts some members by a
name is correct for one member more after that one was counted, so it is correct for all of them.

* `Tally.Counts`: a tally has the number of members of each name, and no name without members.
* `Tally.counts_ofNames`: what counting one name after the other comes to.
* `Log.statistics_summarizes`: the statistics of a log.
-/

namespace SlashLine

namespace Tally

/-- A tally of members by a name that each of them has. -/
structure Counts {α : Type} (tally : Tally) (name : α → String) (members : List α) : Prop where
  count : ∀ n, (tally.get? n).getD 0 = members.countP (name · = n)
  pos : ∀ n k, tally.get? n = some k → 0 < k
  sum : tally.values.sum = members.length

/-- One more of a name adds one to the sum, whether the name was there or not. -/
theorem sum_put_succ (n : String) (l : List (String × Nat)) :
    ((Slots.put n ((Slots.find? n l).getD 0 + 1) l).map Prod.snd).sum =
      (l.map Prod.snd).sum + 1 := by
  induction l with
  | nil => rfl
  | cons p rest ih =>
    obtain ⟨n', k⟩ := p
    rw [Slots.find?, Slots.put]
    by_cases hn : n' = n
    · simp only [if_pos hn, List.map_cons, List.sum_cons, Option.getD_some]
      omega
    · simp only [if_neg hn, List.map_cons, List.sum_cons, ih]
      omega

theorem counts_empty {α : Type} (name : α → String) : Counts Slots.empty name [] := by
  refine ⟨fun n => rfl, ?_, rfl⟩
  intro n k hget
  cases hget

/-- A tally that counts some members counts one more after it is added. -/
theorem Counts.add {α : Type} {tally : Tally} {name : α → String} {members : List α}
    (h : tally.Counts name members) (a : α) : (tally.add (name a)).Counts name (a :: members) := by
  have hget : ∀ n, (tally.add (name a)).get? n =
      if name a = n then some ((tally.get? (name a)).getD 0 + 1) else tally.get? n :=
    fun n => Slots.get?_set tally (name a) n _
  refine ⟨?_, ?_, ?_⟩
  · intro n
    rw [hget, List.countP_cons, ← h.count n]
    by_cases hn : name a = n
    · subst hn
      simp
    · simp [hn]
  · intro n k hk
    rw [hget] at hk
    split at hk
    · cases hk
      exact Nat.succ_pos _
    · exact h.pos n k hk
  · have hsum : (tally.add (name a)).values.sum = tally.values.sum + 1 :=
      sum_put_succ (name a) tally.entries
    rw [hsum, h.sum, List.length_cons]

/-- The members are counted from the last one on, so the first one is added to all the others. -/
theorem counts_ofNames {α : Type} (name : α → String) (members : List α) :
    (ofNames (members.reverse.map name)).Counts name members := by
  rw [ofNames, List.map_reverse, List.foldl_reverse, List.foldr_map]
  induction members with
  | nil => exact counts_empty name
  | cons a members ih => exact ih.add a

end Tally

/-- What statistics say about reports, the newest of which comes first. -/
structure Statistics.Summarizes (stats : Statistics) (reports : List Report) : Prop where
  total : stats.total = reports.length
  severities : stats.bySeverity.Counts (·.severity.name) reports
  categories : stats.byCategory.Counts (·.category.name) reports
  operations : stats.byOperation.Counts (·.context.operation) reports
  recent : stats.recent = reports.take 10

/-- The statistics of a log are the counts of what it holds. -/
theorem Log.statistics_summarizes (log : Log) : log.statistics.Summarizes log.entries where
  total := rfl
  severities := Tally.counts_ofNames _ _
  categories := Tally.counts_ofNames _ _
  operations := Tally.counts_ofNames _ _
  recent := limited_natCast 10 log.entries

end SlashLine
