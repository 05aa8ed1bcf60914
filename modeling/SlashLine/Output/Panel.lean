import SlashLine.Output.Content
import SlashLine.Text.Search

/-!
# Panels

The framed boxes that output is shown in: a title, the colour of the border, and parts of markdown
and of plain text.
-/

namespace SlashLine.Output

/-- A part of a panel. -/
inductive Part where
  | markdown (source : String)
  | plain (text : String)
  deriving DecidableEq, Repr

/-- A framed box. -/
structure Panel where
  title : String
  colour : String
  body : List Part
  deriving DecidableEq, Repr

/-- A list with a bullet for each line. -/
def bullets (lines : List String) : Part :=
  .markdown (Text.joined "\n" (lines.map ("- " ++ ·)))

/-- The panel of a primary output: the message, the details if there are any, and the next steps
under a line of their own if there are any. -/
def Content.panel (content : Content) : Panel where
  title := content.kind.icon ++ " " ++ content.title
  colour := content.kind.colour
  body := .markdown content.message ::
    (if content.details.isEmpty then [] else [bullets content.details]) ++
    (if content.nextSteps.isEmpty then []
      else [.plain "Next steps:", bullets content.nextSteps])

/-- The panel of feedback. -/
def Feedback.panel (feedback : Feedback) : Panel where
  title := feedback.kind.title
  colour := feedback.kind.colour
  body := [.markdown feedback.content]

/-! ## Text -/

/-- The text of a part. -/
def Part.text : Part → String
  | markdown source => source
  | plain text => text

/-- A panel without its frame: the title, and the parts below it. -/
def Panel.text (panel : Panel) : String :=
  Text.joined "\n" (panel.title :: panel.body.map Part.text) ++ "\n"

end SlashLine.Output
