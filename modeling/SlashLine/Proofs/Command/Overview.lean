import SlashLine.Command.Help
import SlashLine.Proofs.Command.Demands
import SlashLine.Proofs.Command.Registration

/-!
# Help after changes

The overview is a heading and a block for each registered command, by arrival. A block says nothing
but what the declaration of its command says, so a change of one command touches one block, and the
help of the other commands not at all. In the help of one command, the part on its flags stands
between two parts that do not depend on them, and lists the flags as checking a command goes through
them.

* `Changes.LinesUp`: the schemas that a history leaves registered, by arrival.
* `Schema.flagless`: a declaration but for its flags.
* `Schema.helpText_eq`: the help of a command, around the section on its flags.
* `help_follows_changes`: the overview and the help after any changes.
-/

namespace SlashLine.Command

/-! ## The section on flags -/

/-- The section on flags: a title, and a line for each of them. -/
def flagSection : List FlagSpec → String
  | [] => ""
  | specs => "**Flags:**\n" ++ String.join (specs.map fun spec => "- " ++ spec.helpEntry ++ "\n") ++
      "\n"

theorem flagSection_eq_empty_iff {specs : List FlagSpec} : flagSection specs = "" ↔ specs = [] := by
  cases specs with
  | nil => exact iff_of_true rfl rfl
  | cons spec specs => simp [flagSection]

theorem spacedSection_flags (specs : List FlagSpec) :
    spacedSection "Flags" (specs.map FlagSpec.helpEntry) = flagSection specs := by
  cases specs with
  | nil => rfl
  | cons spec specs =>
    have htitle : "**" ++ "Flags" ++ ":**\n" = "**Flags:**\n" := by decide
    simp only [spacedSection, bulletSection, flagSection, List.map_cons, List.isEmpty_cons,
      Bool.false_eq_true, if_false, List.map_map, htitle]
    rfl

/-- A subcommand without its flags. -/
def Subcommand.flagless (sub : Subcommand) : Subcommand := { sub with flags := [] }

namespace Schema

/-- A declaration without its flags and those of its subcommands. -/
def flagless (schema : Schema) : Schema :=
  { schema with flags := [], subcommands := schema.subcommands.map Subcommand.flagless }

/-- What the help of a command says before its flags. -/
def helpBefore (schema : Schema) (name : String) (subcommand : Option String) : String :=
  "**" ++ name ++ "** - " ++ schema.description ++ "\n\n" ++
    "**Usage:** " ++ schema.usage ++ "\n\n" ++
    match schema.resolve subcommand with
    | some s => "**Subcommand:** " ++ s.name ++ " - " ++ s.description ++ "\n" ++
        "**Usage:** " ++ s.usage ++ "\n\n"
    | none => ""

/-- What the help of a command says after its flags. -/
def helpAfter (schema : Schema) (subcommand : Option String) : String :=
  (match subcommand with
    | none => spacedSection "Subcommands" (schema.subcommands.map Subcommand.helpEntry)
    | some _ => "") ++
    bulletSection "Examples"
      (if subcommand.isSome && !schema.subcommands.isEmpty then
        ((schema.resolve subcommand).map Subcommand.examples).getD []
      else schema.examples)

/-- The help of a command has its flags in the middle, and what stands around them does not depend
on the flags. -/
theorem helpText_eq (schema : Schema) (name : String) (subcommand : Option String) :
    schema.helpText name subcommand =
      schema.helpBefore name subcommand ++ flagSection (schema.applicableFlags subcommand) ++
        schema.helpAfter subcommand := by
  rw [← spacedSection_flags]
  exact String.append_assoc

theorem resolve_flagless (schema : Schema) (subcommand : Option String) :
    schema.flagless.resolve subcommand = (schema.resolve subcommand).map Subcommand.flagless := by
  cases subcommand with
  | none => rfl
  | some name =>
    show (schema.subcommands.map Subcommand.flagless).find? (·.name == name) = _
    rw [List.find?_map]
    rfl

theorem helpBefore_flagless (schema : Schema) (name : String) (subcommand : Option String) :
    schema.flagless.helpBefore name subcommand = schema.helpBefore name subcommand := by
  rw [helpBefore, helpBefore, resolve_flagless]
  cases schema.resolve subcommand <;> rfl

theorem helpAfter_flagless (schema : Schema) (subcommand : Option String) :
    schema.flagless.helpAfter subcommand = schema.helpAfter subcommand := by
  have hentries : schema.flagless.subcommands.map Subcommand.helpEntry =
      schema.subcommands.map Subcommand.helpEntry := by
    show (schema.subcommands.map Subcommand.flagless).map Subcommand.helpEntry = _
    rw [List.map_map]
    rfl
  have hexamples : (schema.flagless.resolve subcommand).map Subcommand.examples =
      (schema.resolve subcommand).map Subcommand.examples := by
    rw [resolve_flagless, Option.map_map]
    rfl
  have hempty : schema.flagless.subcommands.isEmpty = schema.subcommands.isEmpty :=
    List.isEmpty_map
  rw [helpAfter.eq_def, helpAfter.eq_def, hentries, hexamples, hempty]
  rfl

end Schema

/-! ## Flags as checking finds them -/

/-- Checking a command judges each flag that is given by the first of the declarations that its key
refers to. -/
def JudgedBy (specs : List FlagSpec) (catalog : Catalog) (parsed : Parsed) : Prop :=
  ∀ key value, (key, value) ∈ parsed.flags.entries →
    (Violation.unknownFlag key ∈ violations catalog parsed ↔ ∀ spec ∈ specs, ¬ spec.Refers key) ∧
    ∀ spec, FlagSpec.First specs key spec →
      (Violation.mistyped key spec.kind ∈ violations catalog parsed ↔ ¬ spec.kind.Takes value)

variable {schema : Schema} {parsed : Parsed} {catalog : Catalog}

/-- The flags that the help shows are those by which a command is judged. -/
theorem judgedBy_applicableFlags (hschema : catalog.get? parsed.command = some schema) :
    JudgedBy (schema.applicableFlags parsed.subcommand) catalog parsed := by
  intro key value hgiven
  have hviolations : violations catalog parsed = schemaViolations schema parsed := by
    rw [violations, hschema]
  have hdemand : Demand.flag key value ∈ demands schema parsed := flag_mem_demands_iff.mpr hgiven
  rw [hviolations]
  refine ⟨⟨?_, fun hnone => ?_⟩, fun spec hfirst => ⟨?_, fun hnot => ?_⟩⟩
  · intro h
    obtain ⟨demand, -, hbreaks⟩ := mem_schemaViolations_iff.mp h
    cases hbreaks with
    | unknownFlag hnone => exact hnone
  · exact mem_schemaViolations_iff.mpr ⟨_, hdemand, .unknownFlag hnone⟩
  · intro h
    obtain ⟨demand, hmem, hbreaks⟩ := mem_schemaViolations_iff.mp h
    -- Two declarations may be of one kind, so the complaint is named before its demand is read off.
    generalize hkind : Violation.mistyped key spec.kind = violation at hbreaks
    cases hbreaks with
    | noSubcommands => cases hkind
    | unknownSubcommand => cases hkind
    | unknownFlag => cases hkind
    | missing => cases hkind
    | @mistyped key' value' spec' hfirst' hnot =>
      obtain ⟨rfl, -⟩ := Violation.mistyped.inj hkind
      have hvalue := (Slots.mem_entries_iff _ _ _).mp (flag_mem_demands_iff.mp hmem)
      rw [(Slots.mem_entries_iff _ _ _).mp hgiven] at hvalue
      rwa [hfirst.unique hfirst', Option.some.inj hvalue]
  · exact mem_schemaViolations_iff.mpr ⟨_, hdemand, .mistyped hfirst hnot⟩

/-! ## The overview -/

/-- The blocks of commands, one after the other. -/
def blocks (schemas : List Schema) : String := String.join (schemas.map Schema.helpBlock)

/-- The heading and the blocks of commands. -/
def overview (schemas : List Schema) : String := "# Available Commands\n\n" ++ blocks schemas

theorem blocks_append (earlier later : List Schema) :
    blocks (earlier ++ later) = blocks earlier ++ blocks later := by
  rw [blocks, List.map_append, String.join_append, blocks, blocks]

theorem blocks_cons (schema : Schema) (schemas : List Schema) :
    blocks (schema :: schemas) = schema.helpBlock ++ blocks schemas := by
  rw [blocks, List.map_cons, String.join_cons, blocks]

theorem blocks_singleton (schema : Schema) : blocks [schema] = schema.helpBlock := by
  rw [blocks, List.map_singleton, String.join_cons, String.join_nil, String.append_empty]

theorem overview_append (earlier later : List Schema) :
    overview (earlier ++ later) = overview earlier ++ blocks later := by
  unfold overview
  rw [blocks_append]
  exact String.append_assoc.symm

/-- In the overview each command has a block of its own, with those of the earlier commands before
it and those of the later ones after it. -/
theorem overview_split (earlier later : List Schema) (schema : Schema) :
    overview (earlier ++ schema :: later) =
      overview earlier ++ schema.helpBlock ++ blocks later := by
  rw [overview_append, blocks_cons]
  exact String.append_assoc.symm

/-- The schemas that a history leaves registered, by arrival. -/
structure Changes.LinesUp (past : Changes) (schemas : List Schema) : Prop where
  mem : ∀ schema, schema ∈ schemas ↔ past.schema? schema.name = some schema
  order : schemas.Pairwise fun earlier later => past.ArrivedBefore earlier.name later.name

namespace Catalog

theorem help_eq_overview (catalog : Catalog) : catalog.help = overview catalog.schemas := rfl

/-- After any changes the commands line up by the change that brought each of them in. -/
theorem linesUp_after (past : Changes) : past.LinesUp (after past).schemas where
  mem schema := by
    rw [← get?_after]
    constructor
    · intro hmem
      obtain ⟨pair, hpair, rfl⟩ := List.mem_map.mp hmem
      have hget : (after past).get? pair.1 = some pair.2 :=
        (Slots.mem_entries_iff (after past).slots pair.1 pair.2).mp hpair
      have hname := Changes.name_of_schema? ((get?_after past pair.1).symm.trans hget)
      rwa [hname]
    · intro hget
      exact List.mem_map.mpr ⟨(schema.name, schema), (Slots.mem_entries_iff _ _ _).mpr hget, rfl⟩
  order := by
    have hnames := names_by_arrival past
    rw [← map_name_schemas] at hnames
    exact List.pairwise_map.mp hnames

/-- A command of a new name goes to the end. -/
theorem schemas_register_of_absent (h : catalog.get? schema.name = none) :
    (catalog.register schema).schemas = catalog.schemas ++ [schema] := by
  have hnew : schema.name ∉ catalog.slots.entries.map Prod.fst := Slots.get?_eq_none_iff.mp h
  show (Slots.put schema.name schema catalog.slots.entries).map Prod.snd = _
  rw [Slots.put_of_not_mem hnew, List.map_append]
  rfl

theorem schemas_unregister_of_absent {name : String} (h : catalog.get? name = none) :
    (catalog.unregister name).schemas = catalog.schemas := by
  have habsent : name ∉ catalog.slots.entries.map Prod.fst := Slots.get?_eq_none_iff.mp h
  show (catalog.slots.entries.filter fun pair => pair.1 ≠ name).map Prod.snd = _
  rw [Slots.filter_ne_eq_self habsent]
  rfl

/-- Around a registered command, registering its name again and removing it leave the others as they
are. -/
theorem schemas_split {name : String} {old : Schema} (h : catalog.get? name = some old) :
    ∃ earlier later, catalog.schemas = earlier ++ old :: later ∧
      (∀ schema : Schema, schema.name = name →
        (catalog.register schema).schemas = earlier ++ schema :: later) ∧
      (catalog.unregister name).schemas = earlier ++ later := by
  obtain ⟨before, after, hentries, hset, herase⟩ := Slots.entries_split h
  refine ⟨before.map Prod.snd, after.map Prod.snd, ?_, ?_, ?_⟩
  · rw [schemas, Slots.values, hentries, List.map_append, List.map_cons]
  · rintro schema rfl
    rw [register, schemas, Slots.values, hset, List.map_append, List.map_cons]
  · rw [unregister, schemas, Slots.values, herase, List.map_append]

/-- What the overview says after some changes, and what one more change does to it and to the help
of the other commands. -/
structure HelpFollows (past : Changes) : Prop where
  composed : ∃ schemas, past.LinesUp schemas ∧ (after past).help = overview schemas
  absent : ∀ name, past.schema? name = none →
    (after (.unregister name :: past)).help = (after past).help ∧
    ∀ schema : Schema, schema.name = name →
      (after (.register schema :: past)).help = (after past).help ++ schema.helpBlock
  present : ∀ name old, past.schema? name = some old → ∃ earlier later,
    past.LinesUp (earlier ++ old :: later) ∧
    (after past).help = overview earlier ++ old.helpBlock ++ blocks later ∧
    (after (.unregister name :: past)).help = overview earlier ++ blocks later ∧
    ∀ schema : Schema, schema.name = name →
      (after (.register schema :: past)).help =
        overview earlier ++ schema.helpBlock ++ blocks later
  others : ∀ latest touched, latest.name? = some touched → ∀ name, name ≠ touched →
    ∀ subcommand, (after (latest :: past)).commandHelp name subcommand =
      (after past).commandHelp name subcommand

/-- The help of a registered command is the section on its flags between two texts, which are the
same for every declaration of the name that differs in flags only. The section lists the flags that
checking goes through, in this order, and is there if there are any. -/
structure FlagsShown (past : Changes) (schema : Schema) (subcommand : Option String) : Prop where
  around : ∃ before later : String,
    (after past).commandHelp schema.name subcommand =
      before ++ flagSection (schema.applicableFlags subcommand) ++ later ∧
    ∀ other : Schema, other.flagless = schema.flagless →
      (after (.register other :: past)).commandHelp schema.name subcommand =
        before ++ flagSection (other.applicableFlags subcommand) ++ later
  judged : ∀ parsed : Parsed, parsed.command = schema.name → parsed.subcommand = subcommand →
    JudgedBy (schema.applicableFlags subcommand) (after past) parsed
  absent : flagSection (schema.applicableFlags subcommand) = "" ↔
    schema.applicableFlags subcommand = []

variable {past : Changes}

theorem help_unregister_of_absent {name : String} (h : past.schema? name = none) :
    (after (.unregister name :: past)).help = (after past).help := by
  have habsent := (get?_after past name).trans h
  rw [after, change, remove, help_eq_overview, schemas_unregister_of_absent habsent,
    help_eq_overview]

theorem help_register_of_absent (h : past.schema? schema.name = none) :
    (after (.register schema :: past)).help = (after past).help ++ schema.helpBlock := by
  have habsent := (get?_after past schema.name).trans h
  rw [after, change, help_eq_overview, help_eq_overview, schemas_register_of_absent habsent,
    overview_append, blocks_singleton]

/-- Taking a command away takes its block out of the overview, and registering its name again puts
the new block in the place of the old one. -/
theorem help_of_present {name : String} {old : Schema} (h : past.schema? name = some old) :
    ∃ earlier later, past.LinesUp (earlier ++ old :: later) ∧
      (after past).help = overview earlier ++ old.helpBlock ++ blocks later ∧
      (after (.unregister name :: past)).help = overview earlier ++ blocks later ∧
      ∀ schema : Schema, schema.name = name →
        (after (.register schema :: past)).help =
          overview earlier ++ schema.helpBlock ++ blocks later := by
  have hpresent := (get?_after past name).trans h
  obtain ⟨earlier, later, hsplit, hset, herase⟩ := schemas_split hpresent
  have hlines := linesUp_after past
  rw [hsplit] at hlines
  refine ⟨earlier, later, hlines, ?_, ?_, fun schema hname => ?_⟩
  · rw [help_eq_overview, hsplit, overview_split]
  · rw [after, change, remove, help_eq_overview, herase, overview_append]
  · rw [after, change, help_eq_overview, hset schema hname, overview_split]

/-- A change to one command leaves the help of the others as it was. -/
theorem commandHelp_change_of_ne {latest : Change} {touched name : String}
    (htouched : latest.name? = some touched) (hne : name ≠ touched) (subcommand : Option String) :
    (after (latest :: past)).commandHelp name subcommand =
      (after past).commandHelp name subcommand := by
  rw [commandHelp, commandHelp, after, get?_change_of_ne (after past) htouched hne]

/-- The help of a command is that of the schema it was last registered with. -/
theorem commandHelp_after (h : past.schema? schema.name = some schema)
    (subcommand : Option String) :
    (after past).commandHelp schema.name subcommand =
      schema.helpBefore schema.name subcommand ++
        flagSection (schema.applicableFlags subcommand) ++ schema.helpAfter subcommand := by
  have hpresent := (get?_after past schema.name).trans h
  rw [commandHelp, hpresent]
  exact schema.helpText_eq schema.name subcommand

theorem commandHelp_register_of_flagless {other : Schema} (h : other.flagless = schema.flagless)
    (subcommand : Option String) :
    (after (.register other :: past)).commandHelp schema.name subcommand =
      schema.helpBefore schema.name subcommand ++
        flagSection (other.applicableFlags subcommand) ++ schema.helpAfter subcommand := by
  have hname : other.name = schema.name := by
    show other.flagless.name = schema.flagless.name
    rw [h]
  have hlatest : Changes.schema? other.name (.register other :: past) = some other := if_pos rfl
  -- Both texts around the flags are those of the declaration that is registered last.
  rw [← schema.helpBefore_flagless, ← schema.helpAfter_flagless, ← h, other.helpBefore_flagless,
    other.helpAfter_flagless, ← hname]
  exact commandHelp_after hlatest subcommand

/-- The overview is a heading and one block for each registered command, by arrival. A new command
adds its block, an override replaces it, a removal takes it away, and nothing else changes, the help
of other commands included. In the help of a command, the section on flags has one line for each
flag that applies. -/
theorem help_follows_changes (past : Changes) :
    HelpFollows past ∧
      ∀ schema : Schema, past.schema? schema.name = some schema →
        ∀ subcommand, FlagsShown past schema subcommand := by
  constructor
  · exact {
      composed := ⟨_, linesUp_after past, help_eq_overview _⟩
      absent := fun name hname => ⟨help_unregister_of_absent hname,
        fun schema hschema => help_register_of_absent (hschema ▸ hname)⟩
      present := fun _ _ => help_of_present
      others := fun _ _ htouched _ hne => commandHelp_change_of_ne htouched hne }
  · intro schema hschema subcommand
    refine ⟨⟨_, _, commandHelp_after hschema subcommand, fun other hother => ?_⟩, ?_, ?_⟩
    · exact commandHelp_register_of_flagless hother subcommand
    · rintro parsed hcommand rfl
      rw [← hcommand] at hschema
      exact judgedBy_applicableFlags ((get?_after past _).trans hschema)
    · exact flagSection_eq_empty_iff

/-- The flags of a subcommand come after those of its command. -/
example :
    (after [.register {
      name := "new"
      flags := [{ name := "title", short := some "t" }]
      subcommands := [{ name := "doc", flags := [{ name := "pages", kind := .number }] }] }]
    ).commandHelp "new" (some "doc") =
      "**new** - \n\n**Usage:** \n\n**Subcommand:** doc - \n**Usage:** \n\n**Flags:**\n" ++
        "- --title, -t (string): \n- --pages (number): \n\n" := by
  decide +kernel

end Catalog

end SlashLine.Command
