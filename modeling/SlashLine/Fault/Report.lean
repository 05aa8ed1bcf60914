import SlashLine.Fault
import SlashLine.Text.LowerCase
import SlashLine.Text.Quoted
import SlashLine.Timestamp

/-!
# Reports

What is known about a fault once it is classified: its category, how serious it is, what may help,
and the texts for the user and for the technical reader.
-/

namespace SlashLine

/-- The categories of faults. -/
inductive Category where
  | fileNotFound
  | permissionDenied
  | fileAlreadyExists
  | network
  | model
  | workspaceMissing
  | configuration
  | template
  | generic
  deriving DecidableEq, Repr

namespace Category

/-- All categories, in the order in which they are tried. -/
def all : List Category :=
  [fileNotFound, permissionDenied, fileAlreadyExists, network, model, workspaceMissing,
   configuration, template, generic]

/-- The name of a category. -/
def name : Category → String
  | fileNotFound => "file-not-found"
  | permissionDenied => "permission-denied"
  | fileAlreadyExists => "file-already-exists"
  | network => "network"
  | model => "model"
  | workspaceMissing => "workspace-missing"
  | configuration => "configuration"
  | template => "template"
  | generic => "generic"

/-- The category of a name. -/
def ofName? (name : String) : Option Category := all.find? (·.name == name)

/-- What is said about a name that is no category's. -/
def unknownMessage (name : String) : String := Text.notAMember name "ErrorCategory"

end Category

/-- How serious a fault is for the user. -/
inductive Severity where
  | low
  | medium
  | high
  | critical
  deriving DecidableEq, Repr

namespace Severity

/-- All severities. -/
def all : List Severity := [low, medium, high, critical]

/-- The name of a severity. -/
def name : Severity → String
  | low => "low"
  | medium => "medium"
  | high => "high"
  | critical => "critical"

/-- The severity of a name. -/
def ofName? (name : String) : Option Severity := all.find? (·.name == name)

/-- What is said about a name that is no severity's. -/
def unknownMessage (name : String) : String := Text.notAMember name "ErrorSeverity"

end Severity

/-- Something that may help: a label, by which an action can be bound to it, and a description. -/
structure Intent where
  label : String
  description : String
  deriving DecidableEq, Repr

/-- Where a fault happened. -/
structure FaultContext where
  operation : String := "unknown"
  command : Option String := none
  filePath : Option String := none
  userInput : Option String := none
  sessionId : Option String := none
  timestamp : Option Timestamp := none
  deriving DecidableEq

namespace FaultContext

/-- The file path, unless it is missing or empty. -/
def file? (context : FaultContext) : Option String := context.filePath.filter (!·.isEmpty)

end FaultContext

/-- The classification of one fault. -/
structure Report where
  category : Category
  severity : Severity
  recoverable : Bool
  intents : List Intent := []
  userMessage : String
  technicalMessage : String
  errorType : String := "Exception"
  errorMessage : String := ""
  context : FaultContext
  timestamp : Option Timestamp
  deriving DecidableEq

namespace Report

/-- The labels of what may help. -/
def labels (report : Report) : List String := report.intents.map Intent.label

/-- One of the labels speaks of trying again. -/
def canRetry (report : Report) : Bool :=
  report.labels.any fun label => Text.occursIn "retry".toList (Text.lowerList label.toList)

end Report

end SlashLine
