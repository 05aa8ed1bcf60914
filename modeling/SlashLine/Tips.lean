import SlashLine.Limit
import SlashLine.Slots
import SlashLine.Text.Search

/-!
# Tips

Hints for after a command: those of the command, those of the template it was run with, and
general ones where there are none.

* `Tip.prioritize`: every tip once, by descending priority.
* `Tip.format`: the tips as a markdown list.
-/

namespace SlashLine

/-- A hint. -/
structure Tip where
  title : String
  content : String
  kind : String := "info"
  examples : List String := []
  priority : Int := 0
  deriving DecidableEq, Repr

namespace Tip

/-- The tips that are there from the start. -/
def general : List Tip :=
  [{ title := "Available Commands"
     content := "Use `/help` to list every command and `/help <command>` for details."
     examples := ["/help", "/help errors"]
     priority := 1 }]

/-- Two tips with the same title and content are the same hint. -/
def gist (tip : Tip) : String × String := (tip.title, tip.content)

/-- The tips, each where one with its title and content stands first. -/
def distinct : List Tip → List Tip
  | [] => []
  | tip :: rest => tip :: (distinct rest).filter fun t => t.gist ≠ tip.gist

/-- Every tip once, by descending priority and then as they came, up to a limit. -/
def prioritize (tips : List Tip) (limit : Option Int) : List Tip :=
  limitedBy limit ((distinct tips).mergeSort fun a b => b.priority ≤ a.priority)

/-- The lines of a tip. -/
def lines (tip : Tip) : List String :=
  ("- **" ++ tip.title ++ ":** " ++ tip.content) :: tip.examples.map ("  - `" ++ · ++ "`")

/-- The tips as a markdown list. -/
def format (tips : List Tip) : String := Text.joined "\n" (tips.flatMap lines)

end Tip

/-- Tips by command and by template. -/
structure TipCatalog where
  general : List Tip := Tip.general
  byCommand : Slots String (List Tip) := Slots.empty
  byTemplate : Slots String (List Tip) := Slots.empty

namespace TipCatalog

/-- Adds tips under a key. -/
def extend (slots : Slots String (List Tip)) (key : String) (tips : List Tip) :
    Slots String (List Tip) := slots.set key ((slots.get? key).getD [] ++ tips)

/-- Adds tips for a command. -/
def addForCommand (c : TipCatalog) (command : String) (tips : List Tip) : TipCatalog :=
  { c with byCommand := extend c.byCommand command tips }

/-- Adds tips for a template. -/
def addForTemplate (c : TipCatalog) (template : String) (tips : List Tip) : TipCatalog :=
  { c with byTemplate := extend c.byTemplate template tips }

/-- The tips for a command that was run, perhaps with a template. -/
def tipsFor (c : TipCatalog) (command : String) (template : Option String) : List Tip :=
  let own := (c.byCommand.get? command).getD []
  let ofTemplate := match template with
    | none => []
    | some t => if t.isEmpty then [] else (c.byTemplate.get? t).getD []
  match own ++ ofTemplate with
  | [] => c.general
  | tips => tips

end TipCatalog

end SlashLine
