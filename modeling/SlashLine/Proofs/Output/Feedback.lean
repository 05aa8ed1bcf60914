import Mathlib.Data.List.Dedup
import SlashLine.Proofs.Output.Cue

/-!
# The feedback on a stage

Feedback that takes the slot of older feedback is newer than what is in later slots, so the slots
are not in the order in which their contents came. Two orders are kept apart here: the slots are in
the order in which their sources first stored something, and a piece is compared with those that
were there when it came. The second order is that of `storings`, a record of all that was stored.

* `Stage.Stores`, `Stage.LeavesOut`: the two things that can happen to feedback.
* `latest`: of what was stored, the last piece of each source.
* `Arranged`: how slots hold what was stored, which one storing preserves.
* `feedback_store_invariant`: the feedback after any history.
-/

namespace SlashLine.Output

/-! ## Adding one piece -/

namespace Stage

variable {stage : Stage} {feedback : Feedback}

/-- No piece that is there says the same, and the new one goes to the slot of its source, which is
the last one if the source is new. -/
structure Stores (stage : Stage) (source : String) (feedback : Feedback) (stage' : Stage) :
    Prop where
  fresh : ∀ f ∈ stage.feedback.values, isNearDuplicate f.content feedback.content = false
  slot : (source ∉ stage.feedback.keys ∧
      stage'.feedback.entries = stage.feedback.entries ++ [(source, feedback)]) ∨
    ∃ before old after, stage.feedback.entries = before ++ (source, old) :: after ∧
      stage'.feedback.entries = before ++ (source, feedback) :: after
  rest : stage' = { stage with feedback := stage'.feedback }

/-- Some piece that is there says the same, which is noted, and nothing else happens. -/
structure LeavesOut (stage : Stage) (source : String) (feedback : Feedback) (stage' : Stage) :
    Prop where
  repeated : ∃ f ∈ stage.feedback.values, isNearDuplicate f.content feedback.content = true
  rest : stage' =
    { stage with suppressed := stage.suppressed ++ [source ++ ": " ++ feedback.kind.name] }

/-- Feedback that repeats nothing is no near duplicate of any that is stored. -/
theorem fresh_of_not_repeats (h : stage.repeats feedback = false) :
    ∀ f ∈ stage.feedback.values, isNearDuplicate f.content feedback.content = false := by
  intro f hf
  exact Bool.eq_false_iff.mpr (List.any_eq_false.mp h f hf)

theorem addFeedback_of_repeats (h : stage.repeats feedback = true) (source : String) :
    stage.addFeedback source feedback =
      { stage with suppressed := stage.suppressed ++ [source ++ ": " ++ feedback.kind.name] } :=
  if_pos h

theorem addFeedback_of_not_repeats (h : stage.repeats feedback = false) (source : String) :
    stage.addFeedback source feedback =
      { stage with feedback := stage.feedback.set source feedback } := by
  rw [addFeedback, h]
  exact if_neg Bool.false_ne_true

theorem Stores.not_leavesOut {source : String} {stored noted : Stage}
    (h : stage.Stores source feedback stored) : ¬ stage.LeavesOut source feedback noted := by
  rintro ⟨⟨f, hf, hduplicate⟩, -⟩
  have hfresh := h.fresh f hf
  rw [hduplicate] at hfresh
  cases hfresh

/-- Feedback is stored or left out, and never both. -/
theorem stores_or_leavesOut (stage : Stage) (source : String) (feedback : Feedback) :
    Xor (stage.Stores source feedback (stage.addFeedback source feedback))
      (stage.LeavesOut source feedback (stage.addFeedback source feedback)) := by
  cases hrepeats : stage.repeats feedback with
  | true =>
    have hleft : stage.LeavesOut source feedback (stage.addFeedback source feedback) :=
      ⟨List.any_eq_true.mp hrepeats, addFeedback_of_repeats hrepeats source⟩
    exact Or.inr ⟨hleft, fun hstores => hstores.not_leavesOut hleft⟩
  | false =>
    have hstores : stage.Stores source feedback (stage.addFeedback source feedback) := by
      rw [addFeedback_of_not_repeats hrepeats]
      exact ⟨fresh_of_not_repeats hrepeats, Slots.put_cases source feedback _, rfl⟩
    exact Or.inl ⟨hstores, hstores.not_leavesOut⟩

end Stage

/-! ## What was stored -/

/-- Of pieces with the newest first, the newest of each source. -/
def latest : List (String × Feedback) → List (String × Feedback)
  | [] => []
  | piece :: earlier => piece :: (latest earlier).filter fun p => p.1 ≠ piece.1

/-- The latest piece of some source says the same. -/
def isRepeated (stored : List (String × Feedback)) (feedback : Feedback) : Bool :=
  (latest stored).any fun p => isNearDuplicate p.2.content feedback.content

/-- The feedback that is to be stored since the stage was cleared, the newest first. -/
def storings : List Cue → List (String × Feedback)
  | [] => []
  | .primary _ _ :: past => storings past
  | .feedback source feedback :: past =>
    if isRepeated (storings past) feedback then storings past
    else (source, feedback) :: storings past
  | .clear :: _ => []
  | .render _ _ :: past => storings past

/-- How often feedback was added since the stage was cleared. -/
def additions : List Cue → Nat
  | [] => 0
  | .primary _ _ :: past => additions past
  | .feedback _ _ :: past => additions past + 1
  | .clear :: _ => 0
  | .render _ _ :: past => additions past

/-- How many of the pieces came when their source had stored one before. -/
def replacements : List (String × Feedback) → Nat
  | [] => 0
  | piece :: earlier =>
    if piece.1 ∈ earlier.map Prod.fst then replacements earlier + 1 else replacements earlier

/-- What was stored is counted by the sources, and by how often one was replaced. -/
theorem length_dedup_add_replacements (stored : List (String × Feedback)) :
    (stored.map Prod.fst).dedup.length + replacements stored = stored.length := by
  induction stored with
  | nil => rfl
  | cons piece earlier ih =>
    rw [List.map_cons, replacements, List.length_cons]
    by_cases hmem : piece.1 ∈ earlier.map Prod.fst
    · rw [if_pos hmem, List.dedup_cons_of_mem hmem]
      omega
    · rw [if_neg hmem, List.dedup_cons_of_notMem hmem, List.length_cons]
      omega

/-! ## Slots -/

/-- Slots hold the latest piece of each source, in the order in which the sources came first, and no
piece is a near duplicate of one that was stored before it. -/
structure Arranged (slots : Slots String Feedback) (stored : List (String × Feedback)) : Prop where
  entries : slots.entries.Perm (latest stored)
  distinct : (latest stored).Pairwise fun later earlier =>
    isNearDuplicate earlier.2.content later.2.content = false
  keys : slots.keys = (stored.map Prod.fst).dedup.reverse

namespace Arranged

variable {slots : Slots String Feedback} {stored : List (String × Feedback)}

theorem empty : Arranged Slots.empty [] := ⟨.nil, .nil, rfl⟩

theorem mem_keys_iff (h : Arranged slots stored) (source : String) :
    source ∈ slots.keys ↔ source ∈ stored.map Prod.fst := by
  rw [h.keys, List.mem_reverse, List.mem_dedup]

/-- Whether feedback is repeated can be told from what was stored, without the slots. -/
theorem repeats_eq {stage : Stage} (h : Arranged stage.feedback stored) (feedback : Feedback) :
    stage.repeats feedback = isRepeated stored feedback := by
  rw [Stage.repeats, Slots.values, List.any_map]
  exact h.entries.any_eq

/-- Storing a piece that repeats nothing keeps the slots arranged, also where it takes the place of
an older one. -/
theorem store (h : Arranged slots stored) (source : String) {feedback : Feedback}
    (hfresh : ∀ f ∈ slots.values, isNearDuplicate f.content feedback.content = false) :
    Arranged (slots.set source feedback) ((source, feedback) :: stored) := by
  refine ⟨?_, ?_, ?_⟩
  · exact (slots.entries_set_perm source feedback).trans ((h.entries.filter _).cons _)
  · refine List.pairwise_cons.mpr ⟨?_, h.distinct.filter _⟩
    intro piece hpiece
    have hentry : piece ∈ slots.entries := h.entries.mem_iff.mpr (List.mem_filter.mp hpiece).1
    exact hfresh piece.2 (List.mem_map_of_mem hentry)
  · rw [Slots.keys_set, List.map_cons]
    by_cases hmem : source ∈ slots.keys
    · rw [if_pos hmem, List.dedup_cons_of_mem ((h.mem_keys_iff source).mp hmem), h.keys]
    · have hnew : source ∉ stored.map Prod.fst := fun e => hmem ((h.mem_keys_iff source).mpr e)
      rw [if_neg hmem, List.dedup_cons_of_notMem hnew, List.reverse_cons, h.keys]

/-- The slots hold all that was stored, but for what was replaced. -/
theorem size_add_replacements (h : Arranged slots stored) :
    slots.size + replacements stored = stored.length := by
  have hsize : slots.size = (stored.map Prod.fst).dedup.length := by
    have hlength := congrArg List.length h.keys
    rw [List.length_reverse, Slots.keys, List.length_map] at hlength
    exact hlength
  rw [hsize, length_dedup_add_replacements]

end Arranged

/-! ## Histories -/

section Histories

variable {own : Console} {past : List Cue}

/-- If the slots are arranged, what becomes of a new piece is the same on the stage and in the
record of what was stored. -/
theorem feedback_cases (h : Arranged (stageAfter own past).feedback (storings past))
    (source : String) (feedback : Feedback) :
    let stage := stageAfter own past
    (storings (.feedback source feedback :: past) = storings past ∧
      stageAfter own (.feedback source feedback :: past) =
        { stage with suppressed := stage.suppressed ++ [source ++ ": " ++ feedback.kind.name] }) ∨
    ((∀ f ∈ stage.feedback.values, isNearDuplicate f.content feedback.content = false) ∧
      storings (.feedback source feedback :: past) = (source, feedback) :: storings past ∧
      stageAfter own (.feedback source feedback :: past) =
        { stage with feedback := stage.feedback.set source feedback }) := by
  have hrecord := h.repeats_eq feedback
  cases hrepeats : (stageAfter own past).repeats feedback with
  | true =>
    rw [hrepeats] at hrecord
    exact Or.inl ⟨if_pos hrecord.symm, Stage.addFeedback_of_repeats hrepeats source⟩
  | false =>
    rw [hrepeats] at hrecord
    have hnew : ¬ isRepeated (storings past) feedback = true := by
      rw [← hrecord]
      exact Bool.false_ne_true
    exact Or.inr ⟨Stage.fresh_of_not_repeats hrepeats, if_neg hnew,
      Stage.addFeedback_of_not_repeats hrepeats source⟩

/-- After any cues the feedback is what was stored since the last clearing. -/
theorem arranged_stageAfter (own : Console) (past : List Cue) :
    Arranged (stageAfter own past).feedback (storings past) := by
  induction past with
  | nil => exact .empty
  | cons cue past ih =>
    cases cue with
    | primary source content => exact ih
    | feedback source feedback =>
      rcases feedback_cases ih source feedback with ⟨hstored, hstage⟩ | ⟨hfresh, hstored, hstage⟩
      · rw [hstored, hstage]
        exact ih
      · rw [hstored, hstage]
        exact ih.store source hfresh
    | clear => exact .empty
    | render target canvas =>
      rw [storings, stageAfter, Stage.follow, Stage.feedback_render]
      exact ih

/-- Every piece that is added is stored or noted. -/
theorem length_storings_add_suppressed (own : Console) (past : List Cue) :
    (storings past).length + (stageAfter own past).suppressed.length = additions past := by
  induction past with
  | nil => rfl
  | cons cue past ih =>
    cases cue with
    | primary source content => exact ih
    | feedback source feedback =>
      rw [additions]
      rcases feedback_cases (arranged_stageAfter own past) source feedback with
        ⟨hstored, hstage⟩ | ⟨-, hstored, hstage⟩
      · rw [hstored, hstage, List.length_append, List.length_singleton]
        omega
      · rw [hstored, hstage, List.length_cons]
        dsimp only
        omega
    | clear => rfl
    | render target canvas =>
      rw [storings, stageAfter, Stage.follow, Stage.suppressed_render]
      exact ih

end Histories

/-- Whatever was done with a stage since it was cleared: one more piece of feedback is either stored
or left out; of two pieces that are there the one stored later is no near duplicate of the other;
the slots are in the order in which their sources came first; the feedback is shown by descending
priority, with equal priorities in the order of the slots; and every piece that was added is there,
or was replaced, or is noted as left out. -/
theorem feedback_store_invariant (own : Console) (past : List Cue) :
    let stage := stageAfter own past
    let stored := storings past
    (∀ source feedback,
      Xor (stage.Stores source feedback (stage.addFeedback source feedback))
        (stage.LeavesOut source feedback (stage.addFeedback source feedback))) ∧
    (stage.feedback.entries.Perm (latest stored) ∧
      (latest stored).Pairwise fun later earlier =>
        isNearDuplicate earlier.2.content later.2.content = false) ∧
    (stage.feedback.keys.Nodup ∧ stage.feedback.keys = (stored.map Prod.fst).dedup.reverse) ∧
    (stage.orderedFeedback.Perm stage.feedback.values ∧
      (stage.orderedFeedback.Pairwise fun f g => g.priority ≤ f.priority) ∧
      ∀ priority : Int, (stage.orderedFeedback.filter fun f => f.priority = priority) =
        stage.feedback.values.filter fun f => f.priority = priority) ∧
    stage.feedback.size + stage.suppressed.length + replacements stored = additions past := by
  have harranged := arranged_stageAfter own past
  have hcount := harranged.size_add_replacements
  have hadded := length_storings_add_suppressed own past
  dsimp only
  refine ⟨(stageAfter own past).stores_or_leavesOut, ⟨harranged.entries, harranged.distinct⟩,
    ⟨(stageAfter own past).feedback.nodup, harranged.keys⟩, ?_, ?_⟩
  · exact ⟨(stageAfter own past).orderedFeedback_perm,
      (stageAfter own past).orderedFeedback_pairwise,
      (stageAfter own past).filter_orderedFeedback⟩
  · omega

/-- The second tip takes the slot of the first one, before a piece that is older than it. -/
example :
    (stageAfter {} [.feedback "tips" ⟨.tip, "Try /export", 0⟩,
      .feedback "errors" ⟨.warning, "See the log", 0⟩,
      .feedback "tips" ⟨.tip, "Welcome", 0⟩]).feedback.entries =
    [("tips", ⟨.tip, "Try /export", 0⟩), ("errors", ⟨.warning, "See the log", 0⟩)] := by
  decide +kernel

end SlashLine.Output
