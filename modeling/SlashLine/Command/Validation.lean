import SlashLine.Command.Parsed
import SlashLine.Numeric.Numeral

/-!
# Validation

A parsed command against its declaration: everything that does not fit, in a fixed order, and the
plain values of the flags that were given or have defaults.

* `Violation.message`: the wording of each kind of misfit.
* `violations`: the subcommand first, then the flags in the order in which they were given, then
  the required flags that are missing, in the order of their declaration.
-/

namespace SlashLine.Command

/-- One way in which a parsed command does not fit. -/
inductive Violation where
  | unknownCommand (command : String)
  | noSubcommands (command : String)
  | unknownSubcommand (subcommand command : String) (available : List String)
  | unknownFlag (key : String)
  | mistyped (key : String) (kind : FlagKind)
  | missing (flag : String)
  deriving DecidableEq

namespace Violation

/-- The text of a misfit. -/
def message : Violation → String
  | unknownCommand command => "Unknown command: " ++ command
  | noSubcommands command => "Command '" ++ command ++ "' does not support subcommands"
  | unknownSubcommand subcommand command available =>
    "Unknown subcommand '" ++ subcommand ++ "' for command '" ++ command ++ "'. Available: " ++
      Text.joined ", " available
  | unknownFlag key => "Unknown flag: --" ++ key
  | mistyped key kind => "Flag --" ++ key ++ " should be a " ++ kind.name
  | missing flag => "Required flag --" ++ flag ++ " is missing"

end Violation

/-- The value is of the declared kind. A number may be given as text. -/
def FlagKind.accepts : FlagKind → FlagValue → Bool
  | .boolean, .present _ => true
  | .string, .text _ => true
  | .number, .number x => x.isFinite
  | .number, .text s => (parseNumber s).isSome
  | _, _ => false

/-- What is given for a flag: under its name, or else under its short name. -/
def FlagSpec.given? (spec : FlagSpec) (flags : Slots String FlagValue) : Option FlagValue :=
  match flags.get? spec.name with
  | some v => some v
  | none => spec.short.bind flags.get?

/-! ## Misfits -/

/-- The misfit of the subcommand. -/
def subcommandViolations (schema : Schema) (parsed : Parsed) : List Violation :=
  match parsed.subcommand with
  | none => []
  | some name =>
    if schema.subcommands.isEmpty then [.noSubcommands parsed.command]
    else match schema.subcommand? name with
      | some _ => []
      | none => [.unknownSubcommand name parsed.command (schema.subcommands.map Subcommand.name)]

/-- The misfit of a flag that is given. -/
def flagViolation? (specs : List FlagSpec) (key : String) (value : FlagValue) : Option Violation :=
  match FlagSpec.find? specs key with
  | none => some (.unknownFlag key)
  | some spec => if spec.kind.accepts value then none else some (.mistyped key spec.kind)

/-- The misfit of a declared flag that is not given. -/
def missingViolation? (flags : Slots String FlagValue) (spec : FlagSpec) : Option Violation :=
  if spec.required && (spec.given? flags).isNone then some (.missing spec.name) else none

/-- Everything that does not fit the declaration. -/
def schemaViolations (schema : Schema) (parsed : Parsed) : List Violation :=
  let specs := schema.applicableFlags parsed.subcommand
  subcommandViolations schema parsed ++
    parsed.flags.entries.filterMap (fun (key, value) => flagViolation? specs key value) ++
    specs.filterMap (missingViolation? parsed.flags)

/-- Everything that does not fit; for a command that is not known, nothing but that. -/
def violations (catalog : Catalog) (parsed : Parsed) : List Violation :=
  match catalog.get? parsed.command with
  | none => [.unknownCommand parsed.command]
  | some schema => schemaViolations schema parsed

/-- The command fits its declaration. -/
def isValid (catalog : Catalog) (parsed : Parsed) : Bool := (violations catalog parsed).isEmpty

/-! ## Values -/

/-- The plain value of what is given for a flag. A text for a number is read; nothing remains of
one that is no number. -/
def FlagSpec.coerce (spec : FlagSpec) : FlagValue → Scalar
  | .text s =>
    if spec.kind = .number then
      match parseNumber s with
      | some x => .float x
      | none => .null
    else .text s
  | v => v.toScalar

/-- The value a flag ends up with, if it has one: what is given, or the default. -/
def FlagSpec.value? (spec : FlagSpec) (flags : Slots String FlagValue) : Option Scalar :=
  match spec.given? flags with
  | some v => some (spec.coerce v)
  | none => if spec.default.isNull then none else some spec.default

/-- The values of the applicable flags by name. -/
def coerceFlags (catalog : Catalog) (parsed : Parsed) : Slots String Scalar :=
  match catalog.get? parsed.command with
  | none => Slots.empty
  | some schema =>
    Slots.ofList ((schema.applicableFlags parsed.subcommand).filterMap fun spec =>
      (spec.value? parsed.flags).map (spec.name, ·))

end SlashLine.Command
