import SlashLine.Command.Flag

/-!
# Schemas

What a command is declared to accept, and the catalogue of all declared commands.

* `Catalog.get?_register`: a name stands for the schema that was registered last under it.
* `Catalog.names_register`: a new name goes to the end, a known one keeps its place.
-/

namespace SlashLine.Command

/-- The declaration of a subcommand. -/
structure Subcommand where
  name : String
  description : String := ""
  usage : String := ""
  examples : List String := []
  flags : List FlagSpec := []
  deriving DecidableEq

/-- The declaration of a command. -/
structure Schema where
  name : String
  description : String := ""
  usage : String := ""
  examples : List String := []
  subcommands : List Subcommand := []
  flags : List FlagSpec := []
  deriving DecidableEq

namespace Schema

/-- The first subcommand of a name. -/
def subcommand? (schema : Schema) (name : String) : Option Subcommand :=
  schema.subcommands.find? (·.name == name)

/-- The subcommand that is meant, if one is named and declared. -/
def resolve (schema : Schema) (name : Option String) : Option Subcommand :=
  name.bind schema.subcommand?

/-- The flags that apply: the command's own, then those of the subcommand. -/
def applicableFlags (schema : Schema) (subcommand : Option String) : List FlagSpec :=
  schema.flags ++ ((schema.resolve subcommand).map Subcommand.flags).getD []

/-- A short description of the declaration. -/
def summary (schema : Schema) : String :=
  "CommandDefinition(name='" ++ schema.name ++ "', subcommands=" ++
    toString schema.subcommands.length ++ ")"

end Schema

/-- The declared commands by name, in the order in which they were registered first. -/
structure Catalog where
  slots : Slots String Schema := Slots.empty
  deriving DecidableEq

namespace Catalog

instance : Inhabited Catalog := ⟨{}⟩

/-- Registers a schema under its name. -/
def register (catalog : Catalog) (schema : Schema) : Catalog :=
  ⟨catalog.slots.set schema.name schema⟩

/-- Removes a name. -/
def unregister (catalog : Catalog) (name : String) : Catalog := ⟨catalog.slots.erase name⟩

/-- Removes all commands. -/
def clear (_ : Catalog) : Catalog := {}

/-- The schema registered under a name. -/
def get? (catalog : Catalog) (name : String) : Option Schema := catalog.slots.get? name

/-- A schema is registered under the name. -/
def contains (catalog : Catalog) (name : String) : Bool := catalog.slots.contains name

/-- Removes a name, and says whether it was there. -/
def remove (catalog : Catalog) (name : String) : Bool × Catalog :=
  (catalog.contains name, catalog.unregister name)

/-- The registered names. -/
def names (catalog : Catalog) : List String := catalog.slots.keys

/-- The registered schemas. -/
def schemas (catalog : Catalog) : List Schema := catalog.slots.values

/-- The number of registered commands. -/
def size (catalog : Catalog) : Nat := catalog.slots.size

/-- The schemas registered one after the other. -/
def ofList (schemas : List Schema) : Catalog := schemas.foldl register {}

/-- A short description of the catalogue. -/
def summary (catalog : Catalog) : String :=
  "CommandRegistry(commands=" ++ toString catalog.size ++ ")"

theorem get?_register (catalog : Catalog) (schema : Schema) (name : String) :
    (catalog.register schema).get? name =
      if schema.name = name then some schema else catalog.get? name :=
  Slots.get?_set catalog.slots schema.name name schema

theorem names_register (catalog : Catalog) (schema : Schema) :
    (catalog.register schema).names =
      if schema.name ∈ catalog.names then catalog.names else catalog.names ++ [schema.name] :=
  Slots.keys_set catalog.slots schema.name schema

end Catalog

end SlashLine.Command
