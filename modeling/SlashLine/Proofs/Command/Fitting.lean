import SlashLine.Command.Validation

/-!
# Commands that fit

Checking looks a flag up by the key that is given: the first declaration that the key refers to
says what its value has to be. Coercion goes the other way and takes for each declaration what is
given under its name, or else under its short name. For a declaration that shares no key with
another one the two meet.

* `Fits`: what a command has to be like to have no misfit, and `isValid_iff`.
* `FlagSpec.SoleIn`: a declaration among others that shares no key with them.
* `FlagKind.Delivers`: the plain value that a flag of a kind gives for what it carries.
* `coerceFlags_serves`: coercion delivers what checking has accepted.
-/

namespace SlashLine.Command

/-! ## Having no misfit -/

/-- A command that fits a declaration. -/
structure Fits (schema : Schema) (parsed : Parsed) : Prop where
  subcommand : ∀ name ∈ parsed.subcommand, (schema.subcommand? name).isSome = true
  /-- The declaration that a key refers to takes its value. -/
  flags : ∀ key value, parsed.flags.get? key = some value →
    ∃ spec, FlagSpec.find? (schema.applicableFlags parsed.subcommand) key = some spec ∧
      spec.kind.accepts value = true
  required : ∀ spec ∈ schema.applicableFlags parsed.subcommand, spec.required = true →
    (spec.given? parsed.flags).isSome = true

variable {catalog : Catalog} {schema : Schema} {parsed : Parsed}

theorem subcommandViolations_eq_nil_iff :
    subcommandViolations schema parsed = [] ↔
      ∀ name ∈ parsed.subcommand, (schema.subcommand? name).isSome = true := by
  unfold subcommandViolations
  cases hsub : parsed.subcommand with
  | none => simp
  | some name =>
    cases hname : schema.subcommand? name with
    | none =>
      cases hempty : schema.subcommands.isEmpty with
      | true => simp [hname]
      | false => simp [hname]
    | some sub =>
      have hmem : sub ∈ schema.subcommands := List.mem_of_find?_eq_some hname
      have hne : schema.subcommands.isEmpty = false :=
        List.isEmpty_eq_false_iff.mpr (List.ne_nil_of_mem hmem)
      simp [hname, hne]

theorem flagViolation?_eq_none_iff {specs : List FlagSpec} {key : String} {value : FlagValue} :
    flagViolation? specs key value = none ↔
      ∃ spec, FlagSpec.find? specs key = some spec ∧ spec.kind.accepts value = true := by
  unfold flagViolation?
  cases hfind : FlagSpec.find? specs key with
  | none => simp
  | some spec => cases haccepts : spec.kind.accepts value <;> simp [haccepts]

theorem missingViolation?_eq_none_iff {flags : Slots String FlagValue} {spec : FlagSpec} :
    missingViolation? flags spec = none ↔
      (spec.required = true → (spec.given? flags).isSome = true) := by
  unfold missingViolation?
  cases hgiven : spec.given? flags <;> simp

/-- There is nothing to complain about exactly if the command fits its schema. -/
theorem schemaViolations_eq_nil_iff : schemaViolations schema parsed = [] ↔ Fits schema parsed := by
  unfold schemaViolations
  rw [List.append_eq_nil_iff, List.append_eq_nil_iff, List.filterMap_eq_nil_iff,
    List.filterMap_eq_nil_iff, subcommandViolations_eq_nil_iff]
  constructor
  · rintro ⟨⟨hsub, hflags⟩, hmissing⟩
    refine ⟨hsub, fun key value hget => ?_, fun spec hspec => ?_⟩
    · exact flagViolation?_eq_none_iff.mp
        (hflags (key, value) ((Slots.mem_entries_iff _ key value).mpr hget))
    · exact missingViolation?_eq_none_iff.mp (hmissing spec hspec)
  · intro h
    refine ⟨⟨h.subcommand, ?_⟩, fun spec hspec => ?_⟩
    · rintro ⟨key, value⟩ hentry
      exact flagViolation?_eq_none_iff.mpr
        (h.flags key value ((Slots.mem_entries_iff _ key value).mp hentry))
    · exact missingViolation?_eq_none_iff.mpr (h.required spec hspec)

/-- A command is accepted if it is known and fits its declaration. -/
theorem isValid_iff :
    isValid catalog parsed = true ↔
      ∃ schema, catalog.get? parsed.command = some schema ∧ Fits schema parsed := by
  rw [isValid, List.isEmpty_iff, violations]
  cases hschema : catalog.get? parsed.command with
  | none => simp
  | some schema => simpa using schemaViolations_eq_nil_iff

/-! ## Declarations among others -/

namespace FlagSpec

variable {spec : FlagSpec} {specs : List FlagSpec} {key : String} {flags : Slots String FlagValue}
  {value : FlagValue}

theorem matchesKey_iff :
    spec.matchesKey key = true ↔ key = spec.name ∨ spec.short = some key := by
  simp [matchesKey]

theorem matchesKey_name (spec : FlagSpec) : spec.matchesKey spec.name = true :=
  matchesKey_iff.mpr (.inl rfl)

theorem matchesKey_short (h : spec.short = some key) : spec.matchesKey key = true :=
  matchesKey_iff.mpr (.inr h)

/-- Neither the name nor the short name of the declaration refers to another one of the list. -/
def SoleIn (spec : FlagSpec) (specs : List FlagSpec) : Prop :=
  ∀ other ∈ specs, ∀ key, spec.matchesKey key = true → other.matchesKey key = true → other = spec

theorem matchesKey_of_find? (h : find? specs key = some spec) : spec.matchesKey key = true := by
  have hmatches := List.find?_some h
  exact hmatches

theorem find?_eq_of_sole (hspec : spec ∈ specs) (hkey : spec.matchesKey key = true)
    (hsole : ∀ other ∈ specs, other.matchesKey key = true → other = spec) :
    find? specs key = some spec := by
  cases hfind : find? specs key with
  | none => exact absurd hkey (List.find?_eq_none.mp hfind spec hspec)
  | some other =>
    have hother : other ∈ specs := List.mem_of_find?_eq_some hfind
    rw [hsole other hother (matchesKey_of_find? hfind)]

/-- A flag that shares no key with another one is what its keys find. -/
theorem SoleIn.find?_eq (hsole : spec.SoleIn specs) (hspec : spec ∈ specs)
    (hkey : spec.matchesKey key = true) : find? specs key = some spec :=
  find?_eq_of_sole hspec hkey fun other hother => hsole other hother key hkey

/-- The value under the name goes before the one under the short name. -/
theorem given?_of_name (h : flags.get? spec.name = some value) :
    spec.given? flags = some value := by
  rw [given?, h]

/-- Where the name has no value, the one under the short name is taken. -/
theorem given?_of_short {short : String} (hname : flags.get? spec.name = none)
    (hshort : spec.short = some short) : spec.given? flags = flags.get? short := by
  rw [given?, hname, hshort]
  rfl

theorem given?_of_absent (hname : flags.get? spec.name = none)
    (hshort : ∀ short, spec.short = some short → flags.get? short = none) :
    spec.given? flags = none := by
  rw [given?, hname]
  exact Option.bind_eq_none_iff.mpr hshort

end FlagSpec

/-! ## Values that are delivered -/

/-- The plain value that a flag of a kind gives for what it carries. -/
inductive FlagKind.Delivers : FlagKind → FlagValue → Scalar → Prop
  | string (s : String) : Delivers .string (.text s) (.text s)
  | boolean (b : Bool) : Delivers .boolean (.present b) (.bool b)
  | number {x : Binary64} (hfinite : x.isFinite = true) : Delivers .number (.number x) (.float x)
  | numeral {s : String} {x : Binary64} (hread : parseNumber s = some x)
      (hfinite : x.isFinite = true) : Delivers .number (.text s) (.float x)

theorem FlagKind.Delivers.isNull_eq_false {kind : FlagKind} {value : FlagValue} {plain : Scalar}
    (h : kind.Delivers value plain) : plain.isNull = false := by
  cases h <;> rfl

variable {spec : FlagSpec} {flags : Slots String FlagValue} {value : FlagValue}

/-- What was accepted for a kind of flag is converted to a value of that kind. -/
theorem FlagSpec.delivers_coerce (h : spec.kind.accepts value = true) :
    spec.kind.Delivers value (spec.coerce value) := by
  cases value with
  | text s =>
    cases hkind : spec.kind with
    | string =>
      have hcoerce : spec.coerce (.text s) = .text s := by simp [FlagSpec.coerce, hkind]
      rw [hcoerce]
      exact .string s
    | boolean => simp [hkind, FlagKind.accepts] at h
    | number =>
      rw [hkind] at h
      obtain ⟨x, hread⟩ := Option.isSome_iff_exists.mp h
      have hcoerce : spec.coerce (.text s) = .float x := by simp [FlagSpec.coerce, hkind, hread]
      rw [hcoerce]
      exact .numeral hread (isFinite_of_parseNumber hread)
  | present b =>
    cases hkind : spec.kind with
    | string => simp [hkind, FlagKind.accepts] at h
    | boolean => exact .boolean b
    | number => simp [hkind, FlagKind.accepts] at h
  | number x =>
    cases hkind : spec.kind with
    | string => simp [hkind, FlagKind.accepts] at h
    | boolean => simp [hkind, FlagKind.accepts] at h
    | number =>
      rw [hkind] at h
      exact .number h

/-- What is to be found for a flag among the values of a command: what is given under its name, or
else under its short name, as a value of its kind; or else its default. -/
structure FlagSpec.Served (spec : FlagSpec) (flags : Slots String FlagValue)
    (plain? : Option Scalar) : Prop where
  named : ∀ value, flags.get? spec.name = some value →
    ∃ plain, plain? = some plain ∧ plain.isNull = false ∧ spec.kind.Delivers value plain
  shortNamed : flags.get? spec.name = none → ∀ short value, spec.short = some short →
    flags.get? short = some value →
      ∃ plain, plain? = some plain ∧ plain.isNull = false ∧ spec.kind.Delivers value plain
  absent : flags.get? spec.name = none →
    (∀ short, spec.short = some short → flags.get? short = none) →
      plain? = if spec.default.isNull then none else some spec.default
  required : spec.required = true → ∃ plain, plain? = some plain

/-- A flag that is given has its own value, and the default counts for nothing. -/
theorem FlagSpec.value?_of_given (h : spec.given? flags = some value) :
    spec.value? flags = some (spec.coerce value) := by
  rw [FlagSpec.value?, h]

/-- A flag of a fitting command delivers the value that it is given under either key. -/
theorem Fits.delivers (h : Fits schema parsed)
    (hspec : spec ∈ schema.applicableFlags parsed.subcommand)
    (hsole : spec.SoleIn (schema.applicableFlags parsed.subcommand)) {key : String}
    (hkey : spec.matchesKey key = true) (hget : parsed.flags.get? key = some value)
    (hgiven : spec.given? parsed.flags = some value) :
    ∃ plain, spec.value? parsed.flags = some plain ∧ plain.isNull = false ∧
      spec.kind.Delivers value plain := by
  obtain ⟨checked, hfind, haccepts⟩ := h.flags key value hget
  have heq : checked = spec := Option.some.inj (hfind.symm.trans (hsole.find?_eq hspec hkey))
  rw [heq] at haccepts
  have hdelivers := FlagSpec.delivers_coerce haccepts
  exact ⟨_, FlagSpec.value?_of_given hgiven, hdelivers.isNull_eq_false, hdelivers⟩

/-- Of a fitting command each flag is served that shares no key with another one. -/
theorem Fits.served (h : Fits schema parsed)
    (hspec : spec ∈ schema.applicableFlags parsed.subcommand)
    (hsole : spec.SoleIn (schema.applicableFlags parsed.subcommand)) :
    spec.Served parsed.flags (spec.value? parsed.flags) where
  named value hget :=
    h.delivers hspec hsole spec.matchesKey_name hget (FlagSpec.given?_of_name hget)
  shortNamed hname short value hshort hget :=
    h.delivers hspec hsole (FlagSpec.matchesKey_short hshort) hget
      ((FlagSpec.given?_of_short hname hshort).trans hget)
  absent hname hshort := by
    rw [FlagSpec.value?, FlagSpec.given?_of_absent hname hshort]
  required hrequired := by
    obtain ⟨value, hgiven⟩ := Option.isSome_iff_exists.mp (h.required spec hspec hrequired)
    exact ⟨_, FlagSpec.value?_of_given hgiven⟩

/-! ## Values of a command -/

theorem coerceFlags_eq (hschema : catalog.get? parsed.command = some schema) :
    coerceFlags catalog parsed =
      Slots.ofList ((schema.applicableFlags parsed.subcommand).filterMap fun spec =>
        (spec.value? parsed.flags).map (spec.name, ·)) := by
  rw [coerceFlags, hschema]

theorem mem_coerced_iff {specs : List FlagSpec} {name : String} {plain : Scalar} :
    (name, plain) ∈ specs.filterMap (fun spec => (spec.value? flags).map (spec.name, ·)) ↔
      ∃ spec ∈ specs, spec.name = name ∧ spec.value? flags = some plain := by
  rw [List.mem_filterMap]
  refine exists_congr fun spec => and_congr_right fun _ => ?_
  rw [Option.map_eq_some_iff]
  constructor
  · rintro ⟨plain', hvalue, heq⟩
    cases heq
    exact ⟨rfl, hvalue⟩
  · rintro ⟨rfl, hvalue⟩
    exact ⟨plain, hvalue, rfl⟩

/-- There is one value under the name of a declaration, if no other one takes that name. -/
theorem get?_coerceFlags_of_sole (hschema : catalog.get? parsed.command = some schema)
    (hspec : spec ∈ schema.applicableFlags parsed.subcommand)
    (hsole : ∀ other ∈ schema.applicableFlags parsed.subcommand,
      other.matchesKey spec.name = true → other = spec) :
    (coerceFlags catalog parsed).get? spec.name = spec.value? parsed.flags := by
  rw [coerceFlags_eq hschema]
  rcases Slots.get?_ofList _ spec.name with ⟨hnot, hnone⟩ | ⟨plain, hmem, hsome⟩
  · rw [hnone]
    cases hvalue : spec.value? parsed.flags with
    | none => rfl
    | some plain =>
      have hmem := mem_coerced_iff.mpr ⟨spec, hspec, rfl, hvalue⟩
      exact absurd (List.mem_map.mpr ⟨_, hmem, rfl⟩) hnot
  · obtain ⟨other, hother, heq, hvalue⟩ := mem_coerced_iff.mp hmem
    have hkey : other.matchesKey spec.name = true := heq ▸ other.matchesKey_name
    rw [hsome, ← hvalue, hsole other hother hkey]

/-- The entry of a flag is its own value, if no other flag shares a key with it. -/
theorem get?_coerceFlags (hschema : catalog.get? parsed.command = some schema)
    (hspec : spec ∈ schema.applicableFlags parsed.subcommand)
    (hsole : spec.SoleIn (schema.applicableFlags parsed.subcommand)) :
    (coerceFlags catalog parsed).get? spec.name = spec.value? parsed.flags :=
  get?_coerceFlags_of_sole hschema hspec fun other hother =>
    hsole other hother spec.name spec.matchesKey_name

/-- Every key of the result is the name of an applicable flag. -/
theorem name_of_mem_keys_coerceFlags (hschema : catalog.get? parsed.command = some schema)
    {key : String} (h : key ∈ (coerceFlags catalog parsed).keys) :
    ∃ spec ∈ schema.applicableFlags parsed.subcommand, spec.name = key := by
  rw [coerceFlags_eq hschema] at h
  obtain ⟨⟨name, plain⟩, hentry, rfl⟩ := List.mem_map.mp h
  obtain ⟨spec, hspec, hname, -⟩ := mem_coerced_iff.mp (Slots.mem_of_mem_ofList hentry)
  exact ⟨spec, hspec, hname⟩

/-- What checking has accepted, coercion delivers, for every applicable flag that shares no key
with another one; and there is no value that is not some applicable flag's. -/
theorem coerceFlags_serves (hvalid : isValid catalog parsed = true) :
    ∃ schema, catalog.get? parsed.command = some schema ∧
      (∀ spec ∈ schema.applicableFlags parsed.subcommand,
        spec.SoleIn (schema.applicableFlags parsed.subcommand) →
          spec.Served parsed.flags ((coerceFlags catalog parsed).get? spec.name)) ∧
      ∀ key ∈ (coerceFlags catalog parsed).keys,
        ∃ spec ∈ schema.applicableFlags parsed.subcommand, spec.name = key := by
  obtain ⟨schema, hschema, hfits⟩ := isValid_iff.mp hvalid
  refine ⟨schema, hschema, fun spec hspec hsole => ?_, fun key hkey => ?_⟩
  · rw [get?_coerceFlags hschema hspec hsole]
    exact hfits.served hspec hsole
  · exact name_of_mem_keys_coerceFlags hschema hkey

/-- A number that has to be given, beside a text with a default. -/
def copiesFlag : FlagSpec where
  name := "copies"
  kind := .number
  short := some "n"
  required := true

def titleFlag : FlagSpec where
  name := "title"
  default := .text "untitled"

def printCatalog : Catalog := .ofList [{ name := "print", flags := [copiesFlag, titleFlag] }]

/-- The number twice: by its short name first, then by its name. -/
def printCommand : Parsed where
  command := "print"
  flags := ⟨[("n", .text "9"), ("copies", .text "2.5")], by decide⟩

theorem copies_and_title_served :
    isValid printCatalog printCommand = true ∧
      (∃ x, parseNumber "2.5" = some x ∧
        (coerceFlags printCatalog printCommand).get? "copies" = some (.float x)) ∧
      (coerceFlags printCatalog printCommand).get? "title" = some (.text "untitled") := by
  have hvalid : isValid printCatalog printCommand = true := by decide +kernel
  have hcopies : copiesFlag.SoleIn [copiesFlag, titleFlag] := by
    simp [FlagSpec.SoleIn, FlagSpec.matchesKey_iff, copiesFlag, titleFlag]
  have htitle : titleFlag.SoleIn [copiesFlag, titleFlag] := by
    simp [FlagSpec.SoleIn, FlagSpec.matchesKey_iff, copiesFlag, titleFlag]
  obtain ⟨schema, hschema, hserved, -⟩ := coerceFlags_serves hvalid
  have hknown : printCatalog.get? "print" =
      some { name := "print", flags := [copiesFlag, titleFlag] } := by decide +kernel
  obtain rfl := Option.some.inj (hknown.symm.trans hschema)
  have hcopiesServed := hserved copiesFlag List.mem_cons_self hcopies
  have htitleServed := hserved titleFlag (List.mem_cons_of_mem _ List.mem_cons_self) htitle
  obtain ⟨plain, hplain, -, hdelivers⟩ := hcopiesServed.named (.text "2.5") (by decide +kernel)
  have hshort : ∀ short, titleFlag.short = some short → printCommand.flags.get? short = none := by
    rintro short ⟨⟩
  refine ⟨hvalid, ?_, htitleServed.absent (by decide +kernel) hshort⟩
  cases hdelivers with
  | numeral hread hfinite => exact ⟨_, hread, hplain⟩

end SlashLine.Command
