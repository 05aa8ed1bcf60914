import SlashLine.Output.Stage
import SlashLine.Proofs.Descending

/-!
# The stage while a command runs

A command that only sets primary outputs and adds feedback leaves the stage unpainted, and whatever
comes first to paint it paints all of it: the primary output, and every piece of feedback once, by
descending priority.

* `Stage.Collects`: what a command that paints nothing itself does to the stage.
* `Stage.orderedFeedback_perm`, `Stage.orderedFeedback_pairwise`, `Stage.filter_orderedFeedback`:
  the order of the feedback, in which sorting is stable.
* `Stage.unpainted_render`: painting changes nothing but whether the stage is painted.
* `Stage.render_of_no_failure`: painting on a console that does not fail.
-/

namespace SlashLine.Output

namespace Stage

variable {stage stage' : Stage}

/-! ## Collecting -/

/-- One stage comes from another by setting primary outputs and adding feedback. -/
inductive Collects (stage : Stage) : Stage → Prop
  | nothing : Collects stage stage
  | primary {stage' : Stage} (hearlier : Collects stage stage') (source : String)
      (content : Content) : Collects stage (stage'.setPrimary source content)
  | feedback {stage' : Stage} (hearlier : Collects stage stage') (source : String)
      (feedback : Feedback) : Collects stage (stage'.addFeedback source feedback)

@[simp] theorem rendered_setPrimary (stage : Stage) (source : String) (content : Content) :
    (stage.setPrimary source content).rendered = stage.rendered := rfl

@[simp] theorem rendered_addFeedback (stage : Stage) (source : String) (feedback : Feedback) :
    (stage.addFeedback source feedback).rendered = stage.rendered := by
  unfold addFeedback
  split <;> rfl

@[simp] theorem primary_addFeedback (stage : Stage) (source : String) (feedback : Feedback) :
    (stage.addFeedback source feedback).primary = stage.primary := by
  unfold addFeedback
  split <;> rfl

/-- What only collects does not change whether a stage is painted. -/
theorem Collects.rendered (h : stage.Collects stage') : stage'.rendered = stage.rendered := by
  induction h with
  | nothing => rfl
  | primary _ source content ih => rw [rendered_setPrimary, ih]
  | feedback _ source feedback ih => rw [rendered_addFeedback, ih]

/-! ## The order of the feedback -/

/-- All of the feedback is painted, and nothing else. -/
theorem orderedFeedback_perm (stage : Stage) :
    stage.orderedFeedback.Perm stage.feedback.values :=
  List.mergeSort_perm _ _

/-- What is more important is painted first. -/
theorem orderedFeedback_pairwise (stage : Stage) :
    stage.orderedFeedback.Pairwise fun f g => g.priority ≤ f.priority :=
  pairwise_descending Feedback.priority _

/-- Sorting keeps the order of the pieces of one priority. -/
theorem filter_orderedFeedback (stage : Stage) (priority : Int) :
    (stage.orderedFeedback.filter fun f => f.priority = priority) =
      stage.feedback.values.filter fun f => f.priority = priority :=
  filter_descending Feedback.priority _ priority

theorem orderedFeedback_of_empty (h : stage.feedback = Slots.empty) :
    stage.orderedFeedback = [] := by
  have hperm := stage.orderedFeedback_perm
  rw [h] at hperm
  exact hperm.eq_nil

/-! ## Painting -/

/-- What is on the stage, as if it had not been painted. -/
def unpainted (stage : Stage) : Stage := { stage with rendered := false }

/-- Painting changes nothing but whether a stage is painted. -/
theorem unpainted_render (stage : Stage) (console : Console) (canvas : Canvas) :
    (stage.render console canvas).2.1.unpainted = stage.unpainted := by
  unfold render
  split
  · rfl
  · split <;> rfl

@[simp] theorem primary_render (stage : Stage) (console : Console) (canvas : Canvas) :
    (stage.render console canvas).2.1.primary = stage.primary := by
  have hprimary := congrArg primary (stage.unpainted_render console canvas)
  exact hprimary

@[simp] theorem feedback_render (stage : Stage) (console : Console) (canvas : Canvas) :
    (stage.render console canvas).2.1.feedback = stage.feedback := by
  have hfeedback := congrArg feedback (stage.unpainted_render console canvas)
  exact hfeedback

@[simp] theorem suppressed_render (stage : Stage) (console : Console) (canvas : Canvas) :
    (stage.render console canvas).2.1.suppressed = stage.suppressed := by
  have hsuppressed := congrArg suppressed (stage.unpainted_render console canvas)
  exact hsuppressed

/-- Painting fails with nothing but what the console fails with. -/
theorem failure_of_render {console : Console} {canvas : Canvas} {fault : Fault}
    (h : (stage.render console canvas).1 = .error fault) : ∃ n, console.failure n = some fault := by
  rw [render] at h
  split at h
  · cases h
  · split at h
    · next hpaint =>
      cases h
      exact Canvas.failure_of_paint hpaint
    · cases h

/-- On a console that does not fail all panels of an unpainted stage are painted. -/
theorem render_of_no_failure {console : Console} (hconsole : ∀ n, console.failure n = none)
    (hrendered : stage.rendered = false) (canvas : Canvas) :
    stage.render console canvas =
      (.ok (), { stage with rendered := true },
        ⟨canvas.panels ++ stage.panels, canvas.prints + stage.panels.length⟩) := by
  unfold render
  rw [hrendered, Canvas.paint_of_no_failure hconsole]
  rfl

end Stage

end SlashLine.Output
