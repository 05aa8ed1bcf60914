import SlashLine.Fault.Report
import SlashLine.Fault.Sanitize

/-!
# Classification

A table of rules, each with words that give it away. The first rule one of whose words occurs in
the lower-case text of a fault is the one that classifies it; where none does, a generic rule. About
a fault that has no text there is no report, whatever the rule.

* `Rule.report`, `classify`: the report about a fault, or what asking for its text fails with.
-/

namespace SlashLine

/-- A row of the table. -/
structure Rule where
  category : Category
  patterns : List String
  severity : Severity
  intents : List Intent
  /-- What may help in addition, if a file is known. -/
  fileIntents : List Intent := []
  /-- The text for the user. A marker stands for the file. -/
  template : String

namespace Rule

/-- A word of the rule occurs in a text. -/
def applies (rule : Rule) (lowered : List Char) : Bool :=
  rule.patterns.any fun pattern => Text.occursIn pattern.toList lowered

/-- The marker for the file in the texts of the table. -/
def fileMarker : String := "\x7bfile\x7d"

/-- The text for the user about a file. -/
def userMessage (rule : Rule) (file : Option String) : String :=
  String.ofList (Text.replaceAll fileMarker.toList (file.getD "unknown file").toList
    rule.template.toList)

end Rule

/-- Low and medium severity and network faults are worth trying again. -/
def isRecoverable (category : Category) (severity : Severity) : Bool :=
  category == .network || severity == .low || severity == .medium

/-- The rules, in the order in which they are tried. -/
def ruleTable : List Rule :=
  [{ category := .fileNotFound
     patterns := ["enoent", "file not found", "no such file"]
     severity := .medium
     fileIntents :=
       [⟨"create-file", "Create the missing file with default content"⟩,
        ⟨"choose-different-file", "Select a different file path"⟩]
     intents := [⟨"verify-workspace", "Verify workspace folder is correctly set"⟩]
     template := "File not found: " ++ Rule.fileMarker ++
       ". The file may have been moved, deleted, or the path is incorrect." },
   { category := .permissionDenied
     patterns := ["eacces", "permission denied", "access denied"]
     severity := .high
     intents :=
       [⟨"check-permissions", "Check file and directory permissions"⟩,
        ⟨"choose-different-location", "Choose a different directory with write permissions"⟩]
     template := "Permission denied accessing: " ++ Rule.fileMarker ++
       ". You may not have sufficient permissions to read or write this file." },
   { category := .fileAlreadyExists
     patterns := ["eexist", "already exists"]
     severity := .low
     intents :=
       [⟨"overwrite", "Replace the existing file with new content"⟩,
        ⟨"backup-then-create", "Backup existing file and create new one"⟩,
        ⟨"rename", "Choose a different filename"⟩]
     template := "File already exists: " ++ Rule.fileMarker ++ ". Choose how to proceed." },
   { category := .network
     patterns := ["network", "timeout", "timed out", "fetch", "connection"]
     severity := .medium
     intents :=
       [⟨"retry", "Try the operation again"⟩,
        ⟨"check-connection", "Verify internet connection and proxy settings"⟩,
        ⟨"work-offline", "Continue with offline functionality only"⟩]
     template := "Network error occurred. Check your internet connection and try again." },
   { category := .model
     patterns := ["language model", "model", "copilot", "provider"]
     severity := .high
     intents :=
       [⟨"check-provider-status",
          "Verify the model provider is reachable and authenticated"⟩,
        ⟨"retry-different-model", "Try using a different language model"⟩,
        ⟨"basic-mode", "Continue with basic functionality without AI assistance"⟩]
     template :=
       "Language model error. Please check your model provider status and authentication." },
   { category := .workspaceMissing
     patterns := ["workspace", "folder"]
     severity := .critical
     intents :=
       [⟨"open-workspace", "Open a workspace folder"⟩,
        ⟨"reload", "Reload the window to refresh the workspace"⟩]
     template := "Workspace error. Please ensure a workspace folder is open and accessible." },
   { category := .configuration
     patterns := ["configuration", "settings"]
     severity := .medium
     intents :=
       [⟨"open-settings", "Open settings to fix configuration"⟩,
        ⟨"reset-to-defaults", "Reset configuration to default values"⟩]
     template := "Configuration error. Please check your settings." },
   { category := .template
     patterns := ["template", "variable"]
     severity := .low
     intents :=
       [⟨"use-default-template", "Fall back to the default template"⟩,
        ⟨"list-templates", "Show available templates"⟩]
     template :=
       "Template error. The specified template may not exist or contain invalid syntax." }]

/-- The rule for what no other rule covers. -/
def genericRule : Rule where
  category := .generic
  patterns := []
  severity := .medium
  intents :=
    [⟨"retry", "Try the operation again"⟩,
     ⟨"report-issue", "Report this issue to the maintainers"⟩]
  template :=
    "An unexpected error occurred. Please try again or report the issue if it persists."

/-- The rule that classifies a text. -/
def findRule (message : String) : Rule :=
  (ruleTable.find? (·.applies (Text.lowerList message.toList))).getD genericRule

/-- The rule of a category. -/
def ruleOf (category : Category) : Rule :=
  (ruleTable.find? (·.category == category)).getD genericRule

/-- The report about a fault that a rule covers, or what asking for its text fails with. -/
def Rule.report (rule : Rule) (home : Option String) (fault : Fault) (context : FaultContext) :
    Except Fault Report := do
  let text ← fault.text
  let file := context.file?
  return {
    category := rule.category
    severity := rule.severity
    recoverable := isRecoverable rule.category rule.severity
    intents := if file.isSome then rule.fileIntents ++ rule.intents else rule.intents
    userMessage := rule.userMessage file
    technicalMessage := fault.kind ++ " during " ++ context.operation ++ ": " ++
      sanitize home fault ++ ((file.map (". File: " ++ ·)).getD "")
    errorType := fault.kind
    errorMessage := text
    context
    timestamp := context.timestamp }

/-- The report about a fault, or what asking for its text fails with. -/
def classify (home : Option String) (fault : Fault) (context : FaultContext) :
    Except Fault Report := do
  let text ← fault.text
  (findRule text).report home fault context

variable {fault trouble : Fault} {text : String}

/-- The only reports that cannot be made are those about faults that have no text. -/
theorem Rule.report_eq_error_iff {rule : Rule} {home : Option String} {context : FaultContext} :
    rule.report home fault context = .error trouble ↔ fault.message = .error trouble := by
  rw [← Fault.text_eq_error_iff, Rule.report]
  cases fault.text with
  | error e => exact ⟨fun h => by cases h; rfl, fun h => by cases h; rfl⟩
  | ok text => exact iff_of_false nofun nofun

theorem classify_eq_error_iff {home : Option String} {context : FaultContext} :
    classify home fault context = .error trouble ↔ fault.message = .error trouble := by
  rw [← Fault.text_eq_error_iff, classify]
  cases htext : fault.text with
  | error e => exact ⟨fun h => by cases h; rfl, fun h => by cases h; rfl⟩
  | ok text =>
    refine Rule.report_eq_error_iff.trans ?_
    rw [← Fault.text_eq_error_iff, htext]

theorem classify_of_text (h : fault.text = .ok text) (home : Option String)
    (context : FaultContext) :
    classify home fault context = (findRule text).report home fault context := by
  rw [classify, h]
  rfl

end SlashLine
