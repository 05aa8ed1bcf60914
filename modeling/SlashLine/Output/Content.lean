import SlashLine.Text.Quoted

/-!
# What commands say

The primary output of a command, and the secondary feedback that follows it.
-/

namespace SlashLine.Output

/-- The kinds of primary output. -/
inductive ContentKind where
  | success
  | error
  | info
  | warning
  deriving DecidableEq, Repr

namespace ContentKind

/-- The name of a kind. -/
def name : ContentKind → String
  | success => "success"
  | error => "error"
  | info => "info"
  | warning => "warning"

/-- The kind of a name. -/
def ofName? (name : String) : Option ContentKind :=
  [success, error, info, warning].find? (·.name == name)

/-- What is said about a name that is no kind's. -/
def unknownMessage (name : String) : String := Text.notAMember name "OutputType"

/-- The colour of the border. -/
def colour : ContentKind → String
  | success => "green"
  | error => "red"
  | info => "blue"
  | warning => "yellow"

/-- The sign before the title. -/
def icon : ContentKind → String
  | success => "✅"
  | error => "❌"
  | info => "ℹ\ufe0f"
  | warning => "⚠\ufe0f"

end ContentKind

/-- The primary output of a command. -/
structure Content where
  kind : ContentKind
  title : String := ""
  message : String := ""
  details : List String := []
  nextSteps : List String := []
  deriving DecidableEq, Repr

/-- The kinds of feedback. -/
inductive FeedbackKind where
  | guidance
  | suggestion
  | warning
  | tip
  | conversation
  deriving DecidableEq, Repr

namespace FeedbackKind

/-- The name of a kind. -/
def name : FeedbackKind → String
  | guidance => "guidance"
  | suggestion => "suggestion"
  | warning => "warning"
  | tip => "tip"
  | conversation => "conversation"

/-- The kind of a name. -/
def ofName? (name : String) : Option FeedbackKind :=
  [guidance, suggestion, warning, tip, conversation].find? (·.name == name)

/-- What is said about a name that is no kind's. -/
def unknownMessage (name : String) : String := Text.notAMember name "FeedbackType"

/-- The title of feedback of a kind. -/
def title : FeedbackKind → String
  | guidance => "Guidance"
  | suggestion => "Suggestion"
  | warning => "Warning"
  | tip => "Tip"
  | conversation => "Conversation"

/-- The colour of the border. -/
def colour : FeedbackKind → String
  | guidance => "cyan"
  | suggestion => "cyan"
  | warning => "yellow"
  | tip => "magenta"
  | conversation => "green"

end FeedbackKind

/-- Secondary feedback: the higher its priority, the earlier it is shown. -/
structure Feedback where
  kind : FeedbackKind
  content : String
  priority : Int := 0
  deriving DecidableEq, Repr

end SlashLine.Output
