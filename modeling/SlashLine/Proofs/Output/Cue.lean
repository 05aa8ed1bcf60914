import SlashLine.Proofs.Output.Stage

/-!
# The stage over time

What a command and its surroundings do with a stage, one cue after the other. A history has its
newest cue first: a function of the history starts from the newest cue, and stops where the stage
was cleared.

* `stageAfter`: the stage after a history.
* `unpainted_stageAfter`: whatever paintings there were, and whether they failed, what is on the
  stage is what would be there without them.
-/

namespace SlashLine.Output

/-- Something that is done with a stage. It is painted where `target` says, below what is on
`canvas`. -/
inductive Cue where
  | primary (source : String) (content : Content)
  | feedback (source : String) (feedback : Feedback)
  | clear
  | render (target : Target) (canvas : Canvas)

def Cue.isRender : Cue → Bool
  | .render _ _ => true
  | _ => false

/-- The history without its paintings. -/
def registrations (past : List Cue) : List Cue := past.filter fun cue => !cue.isRender

namespace Stage

/-- The stage after a cue, where `own` is its own console. -/
def follow (own : Console) (stage : Stage) : Cue → Stage
  | .primary source content => stage.setPrimary source content
  | .feedback source feedback => stage.addFeedback source feedback
  | .clear => empty
  | .render target canvas => (stage.render (target.resolve own) canvas).2.1

theorem unpainted_setPrimary (stage : Stage) (source : String) (content : Content) :
    (stage.setPrimary source content).unpainted = stage.unpainted.setPrimary source content := rfl

theorem unpainted_addFeedback (stage : Stage) (source : String) (feedback : Feedback) :
    (stage.addFeedback source feedback).unpainted =
      stage.unpainted.addFeedback source feedback := by
  have hrepeats : stage.unpainted.repeats feedback = stage.repeats feedback := rfl
  rw [addFeedback, addFeedback, hrepeats]
  split <;> rfl

end Stage

/-- The stage after a history. -/
def stageAfter (own : Console) : List Cue → Stage
  | [] => .empty
  | cue :: past => (stageAfter own past).follow own cue

/-- But for being painted, a stage is what its registrations have made of it. -/
theorem unpainted_stageAfter (own : Console) (past : List Cue) :
    (stageAfter own past).unpainted = stageAfter own (registrations past) := by
  induction past with
  | nil => rfl
  | cons cue past ih =>
    cases cue with
    | primary source content =>
      exact (Stage.unpainted_setPrimary _ source content).trans
        (congrArg (·.setPrimary source content) ih)
    | feedback source feedback =>
      exact (Stage.unpainted_addFeedback _ source feedback).trans
        (congrArg (·.addFeedback source feedback) ih)
    | clear => rfl
    | render target canvas => exact (Stage.unpainted_render _ (target.resolve own) canvas).trans ih

end SlashLine.Output
