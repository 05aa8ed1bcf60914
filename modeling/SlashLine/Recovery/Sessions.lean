import SlashLine.Slots

/-!
# Sessions and their attempts

How many attempts have been made for each session. Only so many sessions are tracked; the one that
was touched least recently is dropped for a new one.

* `Sessions.touch`: a session that is touched is tracked, and is the latest.
* `Sessions.latest_touch`: what is tracked after a touch.
* `Sessions.get?_touch`: a touch changes no attempts.
-/

namespace SlashLine.Recovery

/-- The attempts of the tracked sessions, the least recently touched first. -/
structure Sessions where
  limit : Nat
  limit_pos : 0 < limit
  attempts : Slots String Nat := Slots.empty

namespace Sessions

/-- What is said about a limit that is not positive. -/
def limitMessage : String := "max_sessions must be positive"

/-- No sessions, with a limit on their number, if that is positive. -/
def create? (limit : Int) : Option Sessions :=
  if h : 0 < limit.toNat then some { limit := limit.toNat, limit_pos := h } else none

/-- The session that is meant where none is named. -/
def unnamed : String := "default"

/-- The key of a session. -/
def key (session : Option String) : String :=
  match session with
  | none => unnamed
  | some s => if s.isEmpty then unnamed else s

/-- The number of tracked sessions. -/
def size (s : Sessions) : Nat := s.attempts.size

/-- The pairs of a map that are left when only the last so many are kept. -/
def keepLast (count : Nat) (slots : Slots String Nat) : Slots String Nat where
  entries := slots.entries.drop (slots.entries.length - count)
  nodup := slots.nodup.sublist ((List.drop_sublist _ _).map _)

/-- Makes a session the latest one, with no attempts if it is not tracked. -/
def touch (s : Sessions) (k : String) : Sessions :=
  let count := (s.attempts.get? k).getD 0
  { s with attempts := keepLast s.limit ((s.attempts.erase k).set k count) }

/-- The attempts of a session. -/
def count (s : Sessions) (k : String) : Nat := (s.attempts.get? k).getD 0

/-- Sets the attempts of a session that is tracked. -/
def setCount (s : Sessions) (k : String) (n : Nat) : Sessions :=
  if s.attempts.contains k then { s with attempts := s.attempts.set k n } else s

/-- Tracks no session any more. -/
def clear (s : Sessions) : Sessions := { s with attempts := Slots.empty }

/-- The tracked sessions, the latest first. -/
def latest (s : Sessions) : List String := s.attempts.keys.reverse

/-! ## After a touch -/

variable {s : Sessions} {k k' : String}

theorem mem_latest : k ∈ s.latest ↔ k ∈ s.attempts.keys := List.mem_reverse

theorem latest_touch (s : Sessions) (k : String) :
    (s.touch k).latest = (k :: s.latest.filter (· ≠ k)).take s.limit := by
  have hkeys : ∀ slots : Slots String Nat, (keepLast s.limit slots).keys.reverse =
      slots.keys.reverse.take s.limit := by
    intro slots
    rw [List.take_reverse, Slots.keys, keepLast, List.map_drop, Slots.keys, List.length_map]
  have hk : k ∉ (s.attempts.erase k).keys := by
    rw [Slots.keys_erase]
    exact fun h => of_decide_eq_true (List.mem_filter.mp h).2 rfl
  rw [latest, touch, hkeys, Slots.keys_set, if_neg hk, Slots.keys_erase, List.reverse_append,
    ← List.filter_reverse]
  rfl

theorem mem_touch_self (s : Sessions) (k : String) : k ∈ (s.touch k).attempts.keys := by
  obtain ⟨n, hn⟩ := Nat.exists_eq_succ_of_ne_zero (Nat.ne_of_gt s.limit_pos)
  rw [← mem_latest, latest_touch, hn, List.take_succ_cons]
  exact List.mem_cons_self

theorem mem_of_mem_touch (hne : k' ≠ k) (h : k' ∈ (s.touch k).attempts.keys) :
    k' ∈ s.attempts.keys := by
  rw [← mem_latest, latest_touch] at h
  rcases List.mem_cons.mp (List.mem_of_mem_take h) with e | hmem
  · exact absurd e hne
  · exact mem_latest.mp (List.mem_filter.mp hmem).1

theorem get?_touch (h : k' ∈ (s.touch k).attempts.keys) :
    (s.touch k).attempts.get? k' = if k = k' then some (s.count k) else s.attempts.get? k' := by
  have hkept : (s.touch k).attempts.get? k' =
      ((s.attempts.erase k).set k (s.count k)).get? k' :=
    Slots.find?_drop (Slots.nodup _) h
  rw [hkept, Slots.get?_set]
  split
  · rfl
  · next hne => rw [Slots.get?_erase, if_neg hne]

@[simp] theorem count_touch_self (s : Sessions) (k : String) :
    (s.touch k).count k = s.count k := by
  rw [count, get?_touch (mem_touch_self s k), if_pos rfl]
  rfl

/-! ## After attempts -/

theorem keys_setCount (s : Sessions) (k : String) (n : Nat) :
    (s.setCount k n).attempts.keys = s.attempts.keys := by
  unfold setCount
  split
  · next h => rw [Slots.keys_set, if_pos ((s.attempts.contains_iff k).mp h)]
  · rfl

theorem get?_setCount (h : k ∈ s.attempts.keys) (n : Nat) (k' : String) :
    (s.setCount k n).attempts.get? k' = if k = k' then some n else s.attempts.get? k' := by
  have hk : s.attempts.contains k = true := (s.attempts.contains_iff k).mpr h
  rw [setCount, if_pos hk, Slots.get?_set]

@[simp] theorem limit_setCount (s : Sessions) (k : String) (n : Nat) :
    (s.setCount k n).limit = s.limit := by
  unfold setCount
  split <;> rfl

end Sessions

end SlashLine.Recovery
