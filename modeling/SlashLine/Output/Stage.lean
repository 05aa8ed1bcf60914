import SlashLine.Output.Console
import SlashLine.Output.Similarity
import SlashLine.Slots

/-!
# The stage

What one command has to say is collected here and shown once: a primary output, and feedback by
source. Feedback that is a near duplicate of what is there is left out and noted.

* `Stage.panels`: what is to be painted, the primary output first, then feedback by priority.
* `Stage.render`: paints everything once; after a failure everything can be painted again.
-/

namespace SlashLine.Output

/-- What is collected for the command that is being run. -/
structure Stage where
  source : Option String := none
  primary : Option Content := none
  feedback : Slots String Feedback := Slots.empty
  suppressed : List String := []
  rendered : Bool := false
  deriving DecidableEq

namespace Stage

instance : Inhabited Stage := ⟨{}⟩

/-- Nothing collected. -/
def empty : Stage := {}

/-- There is a primary output. -/
def hasPrimary (stage : Stage) : Bool := stage.primary.isSome

/-- Sets the primary output, in place of any other. -/
def setPrimary (stage : Stage) (source : String) (content : Content) : Stage :=
  { stage with source := some source, primary := some content }

/-- Feedback that is there says the same. -/
def repeats (stage : Stage) (feedback : Feedback) : Bool :=
  stage.feedback.values.any fun f => isNearDuplicate f.content feedback.content

/-- Adds feedback under its source, or notes that it was left out. -/
def addFeedback (stage : Stage) (source : String) (feedback : Feedback) : Stage :=
  if stage.repeats feedback then
    { stage with suppressed := stage.suppressed ++ [source ++ ": " ++ feedback.kind.name] }
  else { stage with feedback := stage.feedback.set source feedback }

/-- The feedback by descending priority; of equal priority, what came first. -/
def orderedFeedback (stage : Stage) : List Feedback :=
  stage.feedback.values.mergeSort fun a b => b.priority ≤ a.priority

/-- The panels to paint. -/
def panels (stage : Stage) : List Panel :=
  (stage.primary.map Content.panel).toList ++ stage.orderedFeedback.map Feedback.panel

/-- Paints everything, unless that has been done. -/
def render (stage : Stage) (console : Console) (canvas : Canvas) :
    Except Fault Unit × Stage × Canvas :=
  if stage.rendered then (.ok (), stage, canvas)
  else match canvas.paint console stage.panels with
    | (.error fault, canvas) => (.error fault, stage, canvas)
    | (.ok (), canvas) => (.ok (), { stage with rendered := true }, canvas)

end Stage

end SlashLine.Output
