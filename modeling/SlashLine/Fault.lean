import SlashLine.Text.Search

/-!
# Faults

What can go wrong while a command is run, each with the text it is known by and a hint for the
user where there is one. A fault of a foreign kind may have no text: then asking for it fails in
turn, with a fault of its own.

* `Fault.message`, `Fault.text`: the text of a fault, or what asking for it fails with.
-/

namespace SlashLine

/-- Something that a command, or what serves it, fails with. -/
inductive Fault where
  /-- A failure of the command machinery without a closer description. -/
  | command (message : String) (hint : Option String)
  /-- The input is no well-formed command. -/
  | malformed (message : String) (hint : Option String)
  /-- The command does not fit its declaration. -/
  | invalid (errors : List String) (hint : Option String)
  /-- There is no command of that name; similar names are suggested. -/
  | unknownCommand (name : String) (suggestions : List String)
  /-- A failure that a handler expects and explains. -/
  | handler (message : String) (hint : Option String)
  /-- Any other failure, known by the name of its kind. -/
  | other (kind : String) (message : String)
  /-- A failure that cannot be put into words: asking for its text fails in turn. -/
  | unprintable (kind : String) (trouble : Fault)
  deriving DecidableEq

namespace Fault

instance : Inhabited Fault := ⟨other "Exception" ""⟩

/-- The name of the kind of fault, as reports show it. -/
def kind : Fault → String
  | command _ _ => "CommandError"
  | malformed _ _ => "CommandSyntaxError"
  | invalid _ _ => "CommandValidationError"
  | unknownCommand _ _ => "CommandNotFoundError"
  | handler _ _ => "HandlerError"
  | other kind _ => kind
  | unprintable kind _ => kind

/-- What is said about a command that does not fit its declaration. -/
def invalidMessage (errors : List String) : String :=
  "Command validation failed: " ++ Text.joined ", " errors

/-- What is said about a name that no command has. -/
def unknownMessage (name : String) : String := "Command '" ++ name ++ "' not found"

/-- The text of a fault, or what asking for it fails with. -/
def message : Fault → Except Fault String
  | command m _ => .ok m
  | malformed m _ => .ok m
  | invalid errors _ => .ok (invalidMessage errors)
  | unknownCommand name _ => .ok (unknownMessage name)
  | handler m _ => .ok m
  | other _ m => .ok m
  | unprintable _ trouble => .error trouble

/-- What to try next. -/
def hint : Fault → Option String
  | command _ h => h
  | malformed _ h => h
  | invalid _ h => h
  | unknownCommand _ [] => none
  | unknownCommand _ suggestions =>
    some ("Did you mean: " ++ Text.joined ", " (suggestions.map ("/" ++ ·)))
  | handler _ h => h
  | other _ _ => none
  | unprintable _ _ => none

/-- The text of a fault, or the name of its kind if the text is empty; or what asking for it fails
with. -/
def text (f : Fault) : Except Fault String :=
  f.message.map fun m => if m.isEmpty then f.kind else m

theorem text_eq_error_iff {f trouble : Fault} :
    f.text = .error trouble ↔ f.message = .error trouble := by
  rw [text]
  cases f.message with
  | error e => exact Iff.rfl
  | ok m => exact iff_of_false nofun nofun

end Fault

end SlashLine
