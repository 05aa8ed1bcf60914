import SlashLine.Numeric.Binary64
import SlashLine.Recovery.Sessions

/-!
# The ledger of the sessions

What happens to the sessions of an engine is written down, the newest mark first: a session is
touched, an attempt is made for it, or all sessions are forgotten. The ledger alone says which
sessions are tracked and which attempts count for them, without dropping anything on the way; that
the map of the sessions, which drops a session whenever it is full, agrees with it is an invariant
of the marks.

* `Ledger.tracked`, `Ledger.attempts`: the sessions and their attempts, as the ledger has them.
* `Ledger.Describes`: the map of the sessions agrees with the ledger.
* `Ledger.Describes.touch`, `Ledger.Describes.attempts`, `Ledger.Describes.clear`: every mark
  keeps them in agreement.
-/

namespace SlashLine.Recovery

/-! ## Marks -/

/-- An attempt, made by a call with a budget. Before it there is a wait, unless that is beyond
every number. -/
structure Attempt where
  budget : Int
  wait : Option Binary64

/-- Something that happens to the sessions. -/
inductive Mark where
  | touch (session : String)
  | attempt (session : String) (a : Attempt)
  /-- All sessions are forgotten. -/
  | clear

/-- What happened to the sessions, the newest first. -/
abbrev Ledger := List Mark

namespace Ledger

/-- The sessions that were touched since all were forgotten, each once, the latest first. -/
def touched : Ledger → List String
  | [] => []
  | .touch k :: past => k :: (touched past).filter (· ≠ k)
  | .attempt _ _ :: past => touched past
  | .clear :: _ => []

/-- The sessions that are tracked where there is room for so many, the latest first. -/
def tracked (limit : Nat) (past : Ledger) : List String := (touched past).take limit

/-- The attempts that count for a session, the newest first: those made for it since it was last
touched without being tracked. -/
def attempts (limit : Nat) (k : String) : Ledger → List Attempt
  | [] => []
  | .touch k' :: past => if k' = k ∧ k ∉ tracked limit past then [] else attempts limit k past
  | .attempt k' a :: past => if k' = k then a :: attempts limit k past else attempts limit k past
  | .clear :: _ => []

/-- The marks of attempts for a session, after others. -/
def afterAttempts (k : String) (past : Ledger) (made : List Attempt) : Ledger :=
  made.foldl (fun past a => .attempt k a :: past) past

/-! ## The tracked sessions -/

theorem nodup_touched (past : Ledger) : (touched past).Nodup := by
  induction past with
  | nil => exact List.nodup_nil
  | cons mark past ih =>
    cases mark with
    | touch k =>
      refine List.nodup_cons.mpr ⟨fun h => ?_, ih.filter _⟩
      exact of_decide_eq_true (List.mem_filter.mp h).2 rfl
    | attempt k a => exact ih
    | clear => exact List.nodup_nil

/-- Leaving out one of distinct members before or after the rest is cut off makes no difference,
if there is room for one more before. -/
theorem take_filter_ne {l : List String} (hnodup : l.Nodup) (k : String) (n : Nat) :
    ((l.take (n + 1)).filter (· ≠ k)).take n = (l.filter (· ≠ k)).take n := by
  induction l generalizing n with
  | nil => rfl
  | cons x l ih =>
    obtain ⟨hx, hl⟩ := List.nodup_cons.mp hnodup
    rw [List.take_succ_cons]
    by_cases hk : x = k
    · subst hk
      have hall : ∀ {l' : List String}, x ∉ l' → (x :: l').filter (· ≠ x) = l' := by
        intro l' hx'
        rw [List.filter_cons_of_neg (by simp)]
        refine List.filter_eq_self.mpr fun y hy => decide_eq_true ?_
        rintro rfl
        exact hx' hy
      rw [hall hx, hall fun hmem => hx (List.mem_of_mem_take hmem), List.take_take, Nat.min_self]
    · have hin : ∀ l' : List String, (x :: l').filter (· ≠ k) = x :: l'.filter (· ≠ k) :=
        fun _ => List.filter_cons_of_pos (decide_eq_true hk)
      rw [hin, hin]
      cases n with
      | zero => rw [List.take_zero, List.take_zero]
      | succ n => rw [List.take_succ_cons, List.take_succ_cons, ih hl]

/-- A touch makes a session the latest, and may push out the one that was touched least recently. -/
theorem tracked_touch {limit : Nat} (hlimit : 0 < limit) (k : String) (past : Ledger) :
    tracked limit (.touch k :: past) = (k :: (tracked limit past).filter (· ≠ k)).take limit := by
  obtain ⟨n, rfl⟩ := Nat.exists_eq_succ_of_ne_zero (Nat.ne_of_gt hlimit)
  simp only [tracked, touched, List.take_succ_cons]
  rw [take_filter_ne (nodup_touched past) k n]

/-! ## The marks of attempts -/

variable {limit : Nat} {k k' : String}

theorem tracked_afterAttempts (limit : Nat) (k : String) (past : Ledger) (made : List Attempt) :
    tracked limit (past.afterAttempts k made) = tracked limit past := by
  induction made generalizing past with
  | nil => rfl
  | cons a made ih => exact ih (.attempt k a :: past)

theorem attempts_afterAttempts_self (limit : Nat) (k : String) (past : Ledger)
    (made : List Attempt) :
    attempts limit k (past.afterAttempts k made) = made.reverse ++ attempts limit k past := by
  induction made generalizing past with
  | nil => rfl
  | cons a made ih =>
    have hone : attempts limit k (.attempt k a :: past) = a :: attempts limit k past := by
      rw [attempts, if_pos rfl]
    rw [List.reverse_cons, List.append_assoc, List.singleton_append, ← hone]
    exact ih (.attempt k a :: past)

theorem attempts_afterAttempts_of_ne (hne : k ≠ k') (past : Ledger) (made : List Attempt) :
    attempts limit k' (past.afterAttempts k made) = attempts limit k' past := by
  induction made generalizing past with
  | nil => rfl
  | cons a made ih =>
    have hone : attempts limit k' (.attempt k a :: past) = attempts limit k' past := by
      rw [attempts, if_neg hne]
    rw [← hone]
    exact ih (.attempt k a :: past)

/-! ## Agreement with the map -/

/-- The map tracks the sessions that the ledger has, in order, with as many attempts. -/
structure Describes (past : Ledger) (s : Sessions) : Prop where
  latest : s.latest = tracked s.limit past
  counts : ∀ k ∈ s.attempts.keys, s.attempts.get? k = some (attempts s.limit k past).length

variable {past : Ledger} {s : Sessions}

theorem describes_nil (h : s.attempts = Slots.empty) : Describes [] s := by
  refine ⟨?_, ?_⟩
  · rw [Sessions.latest, h, tracked, touched, List.take_nil]
    rfl
  · intro k hk
    rw [h] at hk
    cases hk

namespace Describes

/-- The sessions that are kept are those that the ledger tracks. -/
theorem mem_keys_iff (h : past.Describes s) : k ∈ s.attempts.keys ↔ k ∈ tracked s.limit past := by
  rw [← Sessions.mem_latest, h.latest]

theorem touch (h : past.Describes s) (k : String) :
    Describes (.touch k :: past) (s.touch k) := by
  refine ⟨?_, ?_⟩
  · rw [Sessions.latest_touch, h.latest]
    exact (tracked_touch s.limit_pos k past).symm
  · intro k' hk'
    rw [Sessions.get?_touch hk']
    change _ = some (attempts s.limit k' (.touch k :: past)).length
    by_cases hne : k = k'
    · subst hne
      rw [if_pos rfl, attempts]
      by_cases hknown : k ∈ s.attempts.keys
      · have hin : ¬ (k = k ∧ k ∉ tracked s.limit past) := fun hnot =>
          hnot.2 (h.mem_keys_iff.mp hknown)
        rw [if_neg hin, Sessions.count, h.counts k hknown]
        rfl
      · -- A session that is not tracked starts anew.
        have hout : k = k ∧ k ∉ tracked s.limit past :=
          ⟨rfl, fun hmem => hknown (h.mem_keys_iff.mpr hmem)⟩
        rw [if_pos hout, Sessions.count, Slots.get?_of_not_mem hknown]
        rfl
    · have hother : ¬ (k = k' ∧ k' ∉ tracked s.limit past) := fun hnot => hne hnot.1
      have hbefore : k' ∈ s.attempts.keys := Sessions.mem_of_mem_touch (fun e => hne e.symm) hk'
      rw [if_neg hne, attempts, if_neg hother]
      exact h.counts k' hbefore

/-- Attempts change the count of their session, and the ledger notes each of them. -/
theorem attempts (h : past.Describes s) (hk : k ∈ s.attempts.keys) (made : List Attempt) :
    Describes (past.afterAttempts k made) (s.setCount k (s.count k + made.length)) := by
  refine ⟨?_, ?_⟩
  · rw [Sessions.latest, Sessions.keys_setCount, Sessions.limit_setCount, tracked_afterAttempts]
    exact h.latest
  · intro k' hk'
    rw [Sessions.keys_setCount] at hk'
    rw [Sessions.get?_setCount hk, Sessions.limit_setCount]
    by_cases hne : k = k'
    · subst hne
      rw [if_pos rfl, attempts_afterAttempts_self, List.length_append, List.length_reverse,
        Nat.add_comm, Sessions.count, h.counts k hk]
      rfl
    · rw [if_neg hne, attempts_afterAttempts_of_ne hne]
      exact h.counts k' hk'

theorem clear (past : Ledger) (s : Sessions) : Describes (.clear :: past) s.clear := by
  refine ⟨?_, ?_⟩
  · exact List.take_nil.symm
  · intro k hk
    cases hk

end Describes

end Ledger

end SlashLine.Recovery
