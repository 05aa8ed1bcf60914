import SlashLine.Proofs.Command.Fitting

/-!
# What a declaration demands

A declaration demands something of the subcommand, of every flag that is given, and of every flag
that has to be given. A command is accepted exactly if it meets all of that; and checking complains
of each demand that is not met, once and in this order, and of nothing else. That is a step for each
kind of demand, `complaint?_eq_none_iff` and `complaint?_eq_some_iff`, and an induction over the
demands.

* `Demand.Met`: when a demand is met, in terms of the declaration alone.
* `Demand.Breaks`: what is said of a demand that is not met.
* `Complains`: the complaints about demands, one after the other.
* `violations_complain`: checking accepts what meets all demands and complains of the others.
-/

namespace SlashLine.Command

/-! ## Demands -/

/-- A key refers to a declaration by its name or by its short name. -/
def FlagSpec.Refers (spec : FlagSpec) (key : String) : Prop :=
  key = spec.name ∨ spec.short = some key

/-- The first of the declarations that a key refers to. -/
def FlagSpec.First (specs : List FlagSpec) (key : String) (spec : FlagSpec) : Prop :=
  ∃ before after, specs = before ++ spec :: after ∧ spec.Refers key ∧
    ∀ other ∈ before, ¬ other.Refers key

/-- The values that conform to a kind: for a number also a text that reads as one. -/
inductive FlagKind.Takes : FlagKind → FlagValue → Prop
  | boolean (b : Bool) : Takes .boolean (.present b)
  | string (s : String) : Takes .string (.text s)
  | number {x : Binary64} (hfinite : x.isFinite = true) : Takes .number (.number x)
  | numeral {s : String} {x : Binary64} (hread : parseNumber s = some x) : Takes .number (.text s)

/-- One thing that a declaration demands of a command. -/
inductive Demand where
  | subcommand
  | flag (key : String) (value : FlagValue)
  | required (spec : FlagSpec)

/-- All demands on a command: on its subcommand, then on its flags in the order in which they are
given, then on the flags that apply in the order in which they are declared. -/
def demands (schema : Schema) (parsed : Parsed) : List Demand :=
  .subcommand :: (parsed.flags.entries.map (fun (key, value) => .flag key value) ++
    (schema.applicableFlags parsed.subcommand).map .required)

/-- A demand is met. -/
def Demand.Met (schema : Schema) (parsed : Parsed) : Demand → Prop
  | .subcommand => ∀ name, parsed.subcommand = some name →
    ∃ sub ∈ schema.subcommands, sub.name = name
  | .flag key value => ∃ spec,
    FlagSpec.First (schema.applicableFlags parsed.subcommand) key spec ∧ spec.kind.Takes value
  | .required spec => spec.required = true →
    spec.name ∈ parsed.flags.keys ∨ ∃ short, spec.short = some short ∧ short ∈ parsed.flags.keys

/-- What is wrong with a demand that is not met. -/
inductive Demand.Breaks (schema : Schema) (parsed : Parsed) : Demand → Violation → Prop
  | noSubcommands {name : String} (hname : parsed.subcommand = some name)
      (hnone : schema.subcommands = []) :
      Breaks schema parsed .subcommand (.noSubcommands parsed.command)
  | unknownSubcommand {name : String} (hname : parsed.subcommand = some name)
      (hsome : schema.subcommands ≠ []) (hnone : ∀ sub ∈ schema.subcommands, sub.name ≠ name) :
      Breaks schema parsed .subcommand
        (.unknownSubcommand name parsed.command (schema.subcommands.map Subcommand.name))
  | unknownFlag {key : String} {value : FlagValue}
      (hnone : ∀ spec ∈ schema.applicableFlags parsed.subcommand, ¬ spec.Refers key) :
      Breaks schema parsed (.flag key value) (.unknownFlag key)
  | mistyped {key : String} {value : FlagValue} {spec : FlagSpec}
      (hfirst : FlagSpec.First (schema.applicableFlags parsed.subcommand) key spec)
      (hnot : ¬ spec.kind.Takes value) :
      Breaks schema parsed (.flag key value) (.mistyped key spec.kind)
  | missing {spec : FlagSpec} (hrequired : spec.required = true)
      (hname : spec.name ∉ parsed.flags.keys)
      (hshort : ∀ short, spec.short = some short → short ∉ parsed.flags.keys) :
      Breaks schema parsed (.required spec) (.missing spec.name)

/-- The complaints about demands: nothing about one that is met, and one about each other. -/
inductive Complains (schema : Schema) (parsed : Parsed) : List Demand → List Violation → Prop
  | nil : Complains schema parsed [] []
  | met {demand : Demand} {later : List Demand} {complaints : List Violation}
      (hmet : demand.Met schema parsed) (hlater : Complains schema parsed later complaints) :
      Complains schema parsed (demand :: later) complaints
  | broken {demand : Demand} {complaint : Violation} {later : List Demand}
      {complaints : List Violation} (hnot : ¬ demand.Met schema parsed)
      (hbreaks : demand.Breaks schema parsed complaint)
      (hlater : Complains schema parsed later complaints) :
      Complains schema parsed (demand :: later) (complaint :: complaints)

variable {schema : Schema} {parsed : Parsed} {spec : FlagSpec} {specs : List FlagSpec}
  {key : String} {value : FlagValue} {flags : Slots String FlagValue} {complaint : Violation}

/-! ## One demand -/

theorem Schema.subcommand?_eq_none_iff (schema : Schema) {name : String} :
    schema.subcommand? name = none ↔ ∀ sub ∈ schema.subcommands, sub.name ≠ name := by
  simp [Schema.subcommand?]

/-- What a key finds is the first specification that it refers to. -/
theorem FlagSpec.find?_eq_some_iff :
    FlagSpec.find? specs key = some spec ↔ First specs key spec := by
  rw [FlagSpec.find?, List.find?_eq_some_iff_append]
  simp only [FlagSpec.First, FlagSpec.Refers, Bool.not_eq_true', ← Bool.not_eq_true, matchesKey_iff]
  constructor
  · rintro ⟨hspec, before, after, hspecs, hbefore⟩
    exact ⟨before, after, hspecs, hspec, hbefore⟩
  · rintro ⟨before, after, hspecs, hspec, hbefore⟩
    exact ⟨hspec, before, after, hspecs, hbefore⟩

theorem FlagSpec.First.unique {spec' : FlagSpec} (h : First specs key spec)
    (h' : First specs key spec') : spec = spec' := by
  have hfind := find?_eq_some_iff.mpr h
  rw [find?_eq_some_iff.mpr h'] at hfind
  exact (Option.some.inj hfind).symm

theorem FlagSpec.find?_eq_none_iff :
    FlagSpec.find? specs key = none ↔ ∀ spec ∈ specs, ¬ spec.Refers key := by
  rw [FlagSpec.find?, List.find?_eq_none]
  simp only [FlagSpec.Refers, matchesKey_iff]

/-- What a kind of flag is said to take is what the validation lets pass. -/
theorem FlagKind.takes_iff {kind : FlagKind} : kind.Takes value ↔ kind.accepts value = true := by
  constructor
  · intro h
    cases h with
    | boolean b => rfl
    | string s => rfl
    | number hfinite => exact hfinite
    | numeral hread => exact Option.isSome_iff_exists.mpr ⟨_, hread⟩
  · intro h
    cases kind with
    | string =>
      cases value with
      | text s => exact .string s
      | present b => cases h
      | number x => cases h
    | boolean =>
      cases value with
      | text s => cases h
      | present b => exact .boolean b
      | number x => cases h
    | number =>
      cases value with
      | text s =>
        obtain ⟨x, hread⟩ := Option.isSome_iff_exists.mp h
        exact .numeral hread
      | present b => cases h
      | number x => exact .number h

/-- A flag is given by its name or by its short name, whatever the value. -/
theorem FlagSpec.given?_isSome_iff : (spec.given? flags).isSome = true ↔
    spec.name ∈ flags.keys ∨ ∃ short, spec.short = some short ∧ short ∈ flags.keys := by
  rw [FlagSpec.given?]
  cases hname : flags.get? spec.name with
  | some value =>
    refine iff_of_true rfl (.inl ?_)
    rw [← Slots.contains_iff, Slots.contains, hname]
    rfl
  | none =>
    rw [or_iff_right (Slots.get?_eq_none_iff.mp hname)]
    cases spec.short with
    | none => simp
    | some short =>
      have hkey : (flags.get? short).isSome = true ↔ short ∈ flags.keys := flags.contains_iff short
      simpa using hkey

theorem FlagSpec.given?_eq_none_iff : spec.given? flags = none ↔
    spec.name ∉ flags.keys ∧ ∀ short, spec.short = some short → short ∉ flags.keys := by
  rw [← Option.not_isSome_iff_eq_none, FlagSpec.given?_isSome_iff]
  simp only [not_or, not_exists, not_and]

/-- What checking says of a demand. -/
def complaint? (schema : Schema) (parsed : Parsed) : Demand → Option Violation
  | .subcommand => (subcommandViolations schema parsed).head?
  | .flag key value => flagViolation? (schema.applicableFlags parsed.subcommand) key value
  | .required spec => missingViolation? parsed.flags spec

/-- Nothing is said about a demand exactly if it is met. -/
theorem complaint?_eq_none_iff {demand : Demand} :
    complaint? schema parsed demand = none ↔ demand.Met schema parsed := by
  cases demand with
  | subcommand =>
    rw [complaint?, List.head?_eq_none_iff, subcommandViolations_eq_nil_iff]
    simp only [Demand.Met, Schema.subcommand?, List.find?_isSome, Option.mem_def, beq_iff_eq]
  | flag key value =>
    rw [complaint?, flagViolation?_eq_none_iff]
    simp only [Demand.Met, FlagSpec.find?_eq_some_iff, FlagKind.takes_iff]
  | required spec =>
    rw [complaint?, missingViolation?_eq_none_iff, FlagSpec.given?_isSome_iff]
    rfl

theorem breaks_of_complaint? {demand : Demand}
    (h : complaint? schema parsed demand = some complaint) :
    demand.Breaks schema parsed complaint := by
  cases demand with
  | subcommand =>
    rw [complaint?, subcommandViolations] at h
    split at h
    · cases h
    · next name hname =>
      split at h
      · next hempty =>
        cases h
        exact .noSubcommands hname (List.isEmpty_iff.mp hempty)
      · next hsome =>
        split at h
        · cases h
        · next hnone =>
          cases h
          exact .unknownSubcommand hname (fun hempty => hsome (List.isEmpty_iff.mpr hempty))
            (schema.subcommand?_eq_none_iff.mp hnone)
  | flag key value =>
    rw [complaint?, flagViolation?] at h
    split at h
    · next hnone =>
      cases h
      exact .unknownFlag (FlagSpec.find?_eq_none_iff.mp hnone)
    · next spec hfind =>
      split at h
      · cases h
      · next hnot =>
        cases h
        exact .mistyped (FlagSpec.find?_eq_some_iff.mp hfind) fun htakes =>
          hnot (FlagKind.takes_iff.mp htakes)
  | required spec =>
    rw [complaint?, missingViolation?] at h
    split at h
    · next hmissing =>
      cases h
      obtain ⟨hrequired, hnone⟩ := Bool.and_eq_true_iff.mp hmissing
      obtain ⟨hname, hshort⟩ :=
        FlagSpec.given?_eq_none_iff.mp (Option.isNone_iff_eq_none.mp hnone)
      exact .missing hrequired hname hshort
    · cases h

theorem complaint?_of_breaks {demand : Demand} (h : demand.Breaks schema parsed complaint) :
    complaint? schema parsed demand = some complaint := by
  cases h with
  | noSubcommands hname hnone => simp [complaint?, subcommandViolations, hname, hnone]
  | unknownSubcommand hname hsome hnone =>
    have hunknown := schema.subcommand?_eq_none_iff.mpr hnone
    simp [complaint?, subcommandViolations, hname, hsome, hunknown]
  | unknownFlag hnone => rw [complaint?, flagViolation?, FlagSpec.find?_eq_none_iff.mpr hnone]
  | mistyped hfirst hnot =>
    rw [complaint?, flagViolation?, FlagSpec.find?_eq_some_iff.mpr hfirst]
    exact if_neg fun haccepts => hnot (FlagKind.takes_iff.mpr haccepts)
  | missing hrequired hname hshort =>
    rw [complaint?, missingViolation?, FlagSpec.given?_eq_none_iff.mpr ⟨hname, hshort⟩, hrequired]
    rfl

/-- What is said about a demand is the complaint that it breaks with. -/
theorem complaint?_eq_some_iff {demand : Demand} :
    complaint? schema parsed demand = some complaint ↔ demand.Breaks schema parsed complaint :=
  ⟨breaks_of_complaint?, complaint?_of_breaks⟩

/-! ## All demands -/

theorem complains_iff {all : List Demand} {complaints : List Violation} :
    Complains schema parsed all complaints ↔
      complaints = all.filterMap (complaint? schema parsed) := by
  constructor
  · intro h
    induction h with
    | nil => rfl
    | met hmet hlater ih => rw [List.filterMap_cons_none (complaint?_eq_none_iff.mpr hmet), ih]
    | broken hnot hbreaks hlater ih =>
      rw [List.filterMap_cons_some (complaint?_eq_some_iff.mpr hbreaks), ih]
  · rintro rfl
    induction all with
    | nil => exact .nil
    | cons demand later ih =>
      cases hcomplaint : complaint? schema parsed demand with
      | none =>
        rw [List.filterMap_cons_none hcomplaint]
        exact .met (complaint?_eq_none_iff.mp hcomplaint) ih
      | some complaint =>
        rw [List.filterMap_cons_some hcomplaint]
        refine .broken (fun hmet => ?_) (complaint?_eq_some_iff.mp hcomplaint) ih
        rw [complaint?_eq_none_iff.mpr hmet] at hcomplaint
        cases hcomplaint

/-- The validation is the demands, each with what there is to say about it. -/
theorem schemaViolations_eq_filterMap (schema : Schema) (parsed : Parsed) :
    schemaViolations schema parsed =
      (demands schema parsed).filterMap (complaint? schema parsed) := by
  have hsub : subcommandViolations schema parsed =
      (complaint? schema parsed .subcommand).toList := by
    rw [complaint?, subcommandViolations]
    split
    · rfl
    · split
      · rfl
      · split <;> rfl
  rw [schemaViolations, demands, List.filterMap_cons, List.filterMap_append, List.filterMap_map,
    List.filterMap_map, hsub]
  cases complaint? schema parsed .subcommand <;> rfl

/-- Every complaint is about a demand that the command breaks, and no broken one is passed over. -/
theorem mem_schemaViolations_iff :
    complaint ∈ schemaViolations schema parsed ↔
      ∃ demand ∈ demands schema parsed, demand.Breaks schema parsed complaint := by
  rw [schemaViolations_eq_filterMap, List.mem_filterMap]
  simp only [complaint?_eq_some_iff]

theorem flag_mem_demands_iff :
    Demand.flag key value ∈ demands schema parsed ↔ (key, value) ∈ parsed.flags.entries := by
  simp [demands]

/-- A command is accepted exactly if it is registered and meets every demand of its declaration.
Nothing but that is said of one that is not registered, and of a registered one just what there is
to complain of, demand by demand. -/
theorem violations_complain (catalog : Catalog) (parsed : Parsed) :
    (isValid catalog parsed = true ↔ ∃ schema, catalog.get? parsed.command = some schema ∧
      ∀ demand ∈ demands schema parsed, demand.Met schema parsed) ∧
    (catalog.get? parsed.command = none →
      violations catalog parsed = [.unknownCommand parsed.command]) ∧
    ∀ schema, catalog.get? parsed.command = some schema → ∀ complaints,
      violations catalog parsed = complaints ↔
        Complains schema parsed (demands schema parsed) complaints := by
  have hregistered : ∀ schema, catalog.get? parsed.command = some schema →
      violations catalog parsed = (demands schema parsed).filterMap (complaint? schema parsed) := by
    intro schema hschema
    rw [violations, hschema]
    exact schemaViolations_eq_filterMap schema parsed
  refine ⟨?_, fun hnone => by rw [violations, hnone], fun schema hschema complaints => ?_⟩
  · rw [isValid, List.isEmpty_iff]
    cases hschema : catalog.get? parsed.command with
    | none => simp [violations, hschema]
    | some schema =>
      rw [hregistered schema hschema, List.filterMap_eq_nil_iff]
      simp only [complaint?_eq_none_iff, Option.some.injEq, exists_eq_left']
  · rw [complains_iff, hregistered schema hschema]
    exact eq_comm

/-- No complaint hides another one. -/
example :
    violations
        (.ofList [{
          name := "print"
          flags :=
            [{ name := "copies", kind := .number, required := true }, { name := "title" }] }])
        { command := "print"
          subcommand := some "all"
          flags := ⟨[("zoom", .text "2"), ("title", .present true)], by decide⟩ } =
      [.noSubcommands "print", .unknownFlag "zoom", .mistyped "title" .string,
        .missing "copies"] := by
  decide +kernel

end SlashLine.Command
