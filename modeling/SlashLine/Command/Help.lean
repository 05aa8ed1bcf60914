import SlashLine.Command.Schema
import SlashLine.Text.Search

/-!
# Help texts

Markdown help for one command, and the overview of all of them: a heading, then one block for each
command.
-/

namespace SlashLine.Command

/-- A list of lines under a title, each ended by a line break; nothing if there are none. -/
def bulletSection (title : String) (lines : List String) : String :=
  if lines.isEmpty then ""
  else "**" ++ title ++ ":**\n" ++ String.join (lines.map fun line => "- " ++ line ++ "\n")

/-- A section that a blank line separates from what follows. -/
def spacedSection (title : String) (lines : List String) : String :=
  if lines.isEmpty then "" else bulletSection title lines ++ "\n"

/-- The entry of a flag. -/
def FlagSpec.helpEntry (spec : FlagSpec) : String :=
  let short := match spec.short with
    | none => ""
    | some s => if s.isEmpty then "" else ", -" ++ s
  let required := if spec.required then " (required)" else ""
  let default := if spec.default.isNull then "" else " [default: " ++ spec.default.render ++ "]"
  "--" ++ spec.name ++ short ++ " (" ++ spec.kind.name ++ ")" ++ required ++ ": " ++
    spec.description ++ default

/-- The entry of a subcommand. -/
def Subcommand.helpEntry (sub : Subcommand) : String :=
  "**" ++ sub.name ++ "**: " ++ sub.description

namespace Schema

/-- The help of a command known by a name, or of one of its subcommands. A command with
subcommands shows the examples of the subcommand that is asked for. -/
def helpText (schema : Schema) (name : String) (subcommand : Option String) : String :=
  let sub := schema.resolve subcommand
  let head := "**" ++ name ++ "** - " ++ schema.description ++ "\n\n" ++
    "**Usage:** " ++ schema.usage ++ "\n\n"
  let subHead := match sub with
    | some s => "**Subcommand:** " ++ s.name ++ " - " ++ s.description ++ "\n" ++
        "**Usage:** " ++ s.usage ++ "\n\n"
    | none => ""
  let flags := spacedSection "Flags" ((schema.applicableFlags subcommand).map FlagSpec.helpEntry)
  let subs := match subcommand with
    | none => spacedSection "Subcommands" (schema.subcommands.map Subcommand.helpEntry)
    | some _ => ""
  let examples :=
    if subcommand.isSome && !schema.subcommands.isEmpty then (sub.map Subcommand.examples).getD []
    else schema.examples
  head ++ subHead ++ flags ++ subs ++ bulletSection "Examples" examples

/-- The block of a command in the overview. -/
def helpBlock (schema : Schema) : String :=
  "## /" ++ schema.name ++ "\n" ++ schema.description ++ "\n\n" ++
    "**Usage:** " ++ schema.usage ++ "\n\n" ++
    spacedSection "Subcommands" (schema.subcommands.map Subcommand.helpEntry) ++
    spacedSection "Examples" schema.examples ++ "---\n\n"

end Schema

namespace Catalog

/-- The help of a command, or of one of its subcommands. -/
def commandHelp (catalog : Catalog) (name : String) (subcommand : Option String) : String :=
  match catalog.get? name with
  | none => "Unknown command: " ++ name
  | some schema => schema.helpText name subcommand

/-- The overview of all commands. -/
def help (catalog : Catalog) : String :=
  "# Available Commands\n\n" ++ String.join (catalog.schemas.map Schema.helpBlock)

end Catalog

end SlashLine.Command
