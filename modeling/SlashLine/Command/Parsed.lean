import SlashLine.Command.Schema
import SlashLine.Command.Token
import SlashLine.Fault

/-!
# Parsed commands

Command text is a slash and tokens: the name of the command, the name of a subcommand if the
command declares one of that name, and flags and arguments in any order. Nothing else of the
declaration is looked at.
-/

namespace SlashLine.Command

/-- A command as it was typed. -/
structure Parsed where
  command : String
  subcommand : Option String := none
  arguments : List String := []
  flags : Slots String FlagValue := Slots.empty
  raw : String := ""
  deriving DecidableEq

namespace Parsed

instance : Inhabited Parsed := ⟨{ command := "" }⟩

/-- The value of the first of the keys that is given. -/
def flag? (parsed : Parsed) (keys : List String) : Option Scalar :=
  (keys.findSome? parsed.flags.get?).map FlagValue.toScalar

/-- One of the keys is given. -/
def hasFlag (parsed : Parsed) (keys : List String) : Bool := keys.any parsed.flags.contains

end Parsed

/-- Why a text is no command. -/
inductive ParseError where
  | noSlash
  | empty
  deriving DecidableEq, Repr

namespace ParseError

/-- The text of the error. -/
def message : ParseError → String
  | noSlash => "Commands must start with a forward slash (/)"
  | empty => "Empty command"

/-- What to do about it. -/
def hint : ParseError → String
  | noSlash => "Try /help to see available commands"
  | empty => "Type a command name after '/'"

/-- The error as a fault. -/
def toFault (e : ParseError) : Fault := .malformed e.message (some e.hint)

end ParseError

/-- The text starts with a slash. -/
def startsSlash (cs : List Char) : Bool := cs.head? == some '/'

/-- The token after the command's name, if it names a subcommand that the command declares. -/
def subcommandToken? (catalog : Catalog) (command : String) (rest : List String) : Option String :=
  match catalog.get? command, rest with
  | some schema, token :: _ => (schema.subcommand? token).map fun _ => token
  | _, _ => none

/-- The command that tokens spell. -/
def Parsed.ofTokens (catalog : Catalog) (raw command : String) (rest : List String) : Parsed :=
  let subcommand := subcommandToken? catalog command rest
  let (flags, arguments) := parseFlags (if subcommand.isSome then rest.drop 1 else rest)
  { command, subcommand, arguments, flags, raw }

/-- Reads command text. The catalogue is asked for subcommands only. -/
def parse (catalog : Catalog) (input : String) : Except ParseError Parsed :=
  let trimmed := Text.trimList input.toList
  if !startsSlash trimmed then .error .noSlash
  else match tokenize (String.ofList trimmed) with
    | [] => .error .empty
    | command :: rest => .ok (.ofTokens catalog (String.ofList trimmed) command rest)

/-! ## Before parsing -/

/-- The text looks like a command: a slash, no second one, and something after it. -/
def isCommand (input : String) : Bool :=
  match Text.trimList input.toList with
  | '/' :: '/' :: _ => false
  | '/' :: rest => !(rest.all Text.isBlank)
  | _ => false

end SlashLine.Command
