import SlashLine.Proofs.Command.Fitting
import SlashLine.Proofs.Command.Writing

/-!
# Declarations that keys belong to

The value under a key is checked against the first declaration that the key refers to. A
declaration, in its turn, is given what stands under its name, or else under its short name, both
for its value and where it has to be given. Nothing keeps two declarations from sharing a key: a
flag may be named like another one's short name, and a subcommand may repeat a flag of its command.
Then a value is read for a declaration that it was not checked against.

* `FlagSpec.source?`: the key under which a declaration is given.
* `ReadAsChecked`: each key is read only for the declaration that its value was checked against.
* `alwaysReadAsChecked_iff`: that is so for all accepted commands exactly if no two declarations
  share a key.
* `level_read_unchecked`: a number flag with a text that is no number, in an accepted command.
-/

namespace SlashLine.Command

/-! ## Reading by declaration -/

/-- The key under which a declaration is given: its name, or else its short name. -/
def FlagSpec.source? (spec : FlagSpec) (flags : Slots String FlagValue) : Option String :=
  if flags.contains spec.name then some spec.name
  else spec.short.filter flags.contains

variable {catalog : Catalog} {schema : Schema} {command : String} {subcommand : Option String}
  {spec : FlagSpec} {specs : List FlagSpec} {flags : Slots String FlagValue} {key : String}

/-- A declaration is given what its source holds. -/
theorem FlagSpec.given?_eq_source? :
    spec.given? flags = (spec.source? flags).bind flags.get? := by
  unfold FlagSpec.given? FlagSpec.source? Slots.contains
  cases hname : flags.get? spec.name with
  | some value => simp [hname]
  | none =>
    cases hshort : spec.short with
    | none => simp
    | some short => cases hget : flags.get? short <;> simp [hget, Option.filter]

theorem FlagSpec.matchesKey_of_source? (h : spec.source? flags = some key) :
    spec.matchesKey key = true := by
  unfold FlagSpec.source? at h
  split at h
  · exact Option.some.inj h ▸ spec.matchesKey_name
  · exact FlagSpec.matchesKey_short (Option.eq_some_of_filter_eq_some h)

theorem FlagSpec.source?_of_name (h : flags.contains spec.name = true) :
    spec.source? flags = some spec.name := if_pos h

theorem FlagSpec.source?_of_short (hname : flags.contains spec.name = false)
    (hshort : spec.short = some key) (hkey : flags.contains key = true) :
    spec.source? flags = some key := by
  rw [FlagSpec.source?, if_neg (ne_true_of_eq_false hname), hshort]
  exact Option.filter_eq_some_iff.mpr ⟨rfl, hkey⟩

theorem FlagSpec.isSome_given?_of_contains (hmatches : spec.matchesKey key = true)
    (hkey : flags.contains key = true) : (spec.given? flags).isSome = true := by
  cases hname : flags.contains spec.name with
  | true =>
    rw [FlagSpec.given?_eq_source?, FlagSpec.source?_of_name hname]
    exact hname
  | false =>
    rcases FlagSpec.matchesKey_iff.mp hmatches with rfl | hshort
    · rw [hkey] at hname
      cases hname
    · rw [FlagSpec.given?_eq_source?, FlagSpec.source?_of_short hname hshort hkey]
      exact hkey

/-- Whatever declaration takes what is given under a key, for its value or because it has to be
given, is the one that the value was checked against. -/
def ReadAsChecked (schema : Schema) (parsed : Parsed) : Prop :=
  ∀ key ∈ parsed.flags.keys, ∀ spec ∈ schema.applicableFlags parsed.subcommand,
    spec.source? parsed.flags = some key →
      FlagSpec.find? (schema.applicableFlags parsed.subcommand) key = some spec

/-- In every accepted command of a name and a subcommand, keys are read as checked. -/
def AlwaysReadAsChecked (catalog : Catalog) (schema : Schema) (command : String)
    (subcommand : Option String) : Prop :=
  ∀ parsed : Parsed, parsed.command = command → parsed.subcommand = subcommand →
    isValid catalog parsed = true → ReadAsChecked schema parsed

/-- No key refers to two different declarations. -/
def Unambiguous (specs : List FlagSpec) : Prop := ∀ spec ∈ specs, spec.SoleIn specs

/-- Without shared keys the key of a flag finds that flag and no other. -/
theorem Unambiguous.find?_eq (h : Unambiguous specs) (hspec : spec ∈ specs)
    (hkey : spec.matchesKey key = true) : FlagSpec.find? specs key = some spec :=
  (h spec hspec).find?_eq hspec hkey

/-- Conversely, if each key of a flag finds that flag, no two flags share a key. -/
theorem unambiguous_of_find?_eq (h : ∀ spec ∈ specs, ∀ key, spec.matchesKey key = true →
    FlagSpec.find? specs key = some spec) : Unambiguous specs := by
  intro spec hspec other hother key hkey hotherKey
  have heq := (h other hother key hotherKey).symm.trans (h spec hspec key hkey)
  exact Option.some.inj heq

/-! ## Commands with given keys -/

def FlagKind.sample : FlagKind → FlagValue
  | .boolean => .present true
  | .string => .text "0"
  | .number => .text "0"

theorem FlagKind.accepts_sample (kind : FlagKind) : kind.accepts kind.sample = true := by
  cases kind <;> decide +kernel

/-- Each key with a value that is taken by the declaration it is checked against. -/
def samples (specs : List FlagSpec) (keys : List String) : Slots String FlagValue :=
  Slots.ofList (keys.filterMap fun key =>
    (FlagSpec.find? specs key).map fun spec => (key, spec.kind.sample))

theorem mem_samples_iff {keys : List String} {value : FlagValue} :
    ((key, value) ∈ keys.filterMap fun key =>
      (FlagSpec.find? specs key).map fun spec => (key, spec.kind.sample)) ↔
        key ∈ keys ∧ ∃ spec, FlagSpec.find? specs key = some spec ∧ value = spec.kind.sample := by
  rw [List.mem_filterMap]
  constructor
  · rintro ⟨key', hkey, hpair⟩
    obtain ⟨spec, hfind, heq⟩ := Option.map_eq_some_iff.mp hpair
    cases heq
    exact ⟨hkey, spec, hfind, rfl⟩
  · rintro ⟨hkey, spec, hfind, rfl⟩
    exact ⟨key, hkey, Option.map_eq_some_iff.mpr ⟨spec, hfind, rfl⟩⟩

theorem contains_samples_iff {keys : List String} :
    (samples specs keys).contains key = true ↔
      key ∈ keys ∧ ∃ spec ∈ specs, spec.matchesKey key = true := by
  rw [samples, Slots.contains]
  rcases Slots.get?_ofList _ key with ⟨hnot, hnone⟩ | ⟨value, hmem, hsome⟩
  · rw [hnone]
    refine iff_of_false Bool.false_ne_true ?_
    rintro ⟨hkey, hmatch⟩
    obtain ⟨spec, hfind⟩ := Option.isSome_iff_exists.mp (List.find?_isSome.mpr hmatch)
    exact hnot (List.mem_map.mpr ⟨_, mem_samples_iff.mpr ⟨hkey, spec, hfind, rfl⟩, rfl⟩)
  · obtain ⟨hkey, spec, hfind, -⟩ := mem_samples_iff.mp hmem
    rw [hsome]
    exact iff_of_true rfl
      ⟨hkey, spec, List.mem_of_find?_eq_some hfind, FlagSpec.matchesKey_of_find? hfind⟩

/-- Samples under keys that reach every flag make a command that fits its schema. -/
theorem fits_samples (command : String) {keys : List String}
    (hsub : ∀ name ∈ subcommand, (schema.subcommand? name).isSome = true)
    (hgiven : ∀ spec ∈ schema.applicableFlags subcommand,
      ∃ key ∈ keys, spec.matchesKey key = true) :
    Fits schema
      { command, subcommand, flags := samples (schema.applicableFlags subcommand) keys } where
  subcommand := hsub
  flags key value hget := by
    have hmem := Slots.mem_of_mem_ofList ((Slots.mem_entries_iff _ key value).mpr hget)
    obtain ⟨-, spec, hfind, rfl⟩ := mem_samples_iff.mp hmem
    exact ⟨spec, hfind, spec.kind.accepts_sample⟩
  required spec hspec _ := by
    obtain ⟨key, hkey, hmatches⟩ := hgiven spec hspec
    exact FlagSpec.isSome_given?_of_contains hmatches
      (contains_samples_iff.mpr ⟨hkey, spec, hspec, hmatches⟩)

/-! ## Agreement -/

/-- Without shared keys every value is read by the flag it was checked against. -/
theorem readAsChecked_of_unambiguous {parsed : Parsed}
    (h : Unambiguous (schema.applicableFlags parsed.subcommand)) : ReadAsChecked schema parsed :=
  fun _ _ _ hspec hsource => h.find?_eq hspec (FlagSpec.matchesKey_of_source? hsource)

section Always

variable (hschema : catalog.get? command = some schema)
  (hsub : ∀ name ∈ subcommand, (schema.subcommand? name).isSome = true)
  (hread : AlwaysReadAsChecked catalog schema command subcommand)

include hschema hsub hread

/-- If the samples are read as they were checked, the key from which a flag is read finds that
flag. -/
theorem find?_eq_of_source? (keys : List String)
    (hgiven : ∀ spec ∈ schema.applicableFlags subcommand,
      ∃ key ∈ keys, spec.matchesKey key = true)
    (hspec : spec ∈ schema.applicableFlags subcommand)
    (hsource : spec.source? (samples (schema.applicableFlags subcommand) keys) = some key)
    (hkey : key ∈ keys) :
    FlagSpec.find? (schema.applicableFlags subcommand) key = some spec := by
  have hvalid := isValid_iff.mpr ⟨schema, hschema, fits_samples command hsub hgiven⟩
  have hmatches := FlagSpec.matchesKey_of_source? hsource
  have hcontains := contains_samples_iff.mpr ⟨hkey, spec, hspec, hmatches⟩
  exact hread _ rfl rfl hvalid key ((Slots.contains_iff _ _).mp hcontains) spec hspec hsource

/-- A name refers first to the declaration that has it: all flags may be given by their names. -/
theorem find?_name_eq (hspec : spec ∈ schema.applicableFlags subcommand) :
    FlagSpec.find? (schema.applicableFlags subcommand) spec.name = some spec := by
  have hmem (other : FlagSpec) (hother : other ∈ schema.applicableFlags subcommand) :
      other.name ∈ (schema.applicableFlags subcommand).map FlagSpec.name :=
    List.mem_map_of_mem hother
  refine find?_eq_of_source? hschema hsub hread _ (fun other hother => ?_) hspec ?_
    (hmem spec hspec)
  · exact ⟨other.name, hmem other hother, other.matchesKey_name⟩
  · exact FlagSpec.source?_of_name
      (contains_samples_iff.mpr ⟨hmem spec hspec, spec, hspec, spec.matchesKey_name⟩)

/-- So does a short name: its flag may be given by it, and all others by their names. -/
theorem find?_short_eq (hspec : spec ∈ schema.applicableFlags subcommand)
    (hshort : spec.short = some key) (hne : key ≠ spec.name) :
    FlagSpec.find? (schema.applicableFlags subcommand) key = some spec := by
  have hkey : spec.matchesKey key = true := FlagSpec.matchesKey_short hshort
  refine find?_eq_of_source? hschema hsub hread
    (key :: ((schema.applicableFlags subcommand).map FlagSpec.name).filter (· ≠ spec.name))
    (fun other hother => ?_) hspec ?_ List.mem_cons_self
  · by_cases hname : other.name = spec.name
    · -- this name is not given, and the short name is only known to refer to `spec`
      have heq : other = spec := by
        have hfirst := find?_name_eq hschema hsub hread hother
        rw [hname, find?_name_eq hschema hsub hread hspec] at hfirst
        exact (Option.some.inj hfirst).symm
      exact ⟨key, List.mem_cons_self, heq ▸ hkey⟩
    · refine ⟨other.name, List.mem_cons_of_mem key (List.mem_filter.mpr ⟨?_, ?_⟩),
        other.matchesKey_name⟩
      · exact List.mem_map_of_mem hother
      · exact decide_eq_true hname
  · refine FlagSpec.source?_of_short ?_ hshort
      (contains_samples_iff.mpr ⟨List.mem_cons_self, spec, hspec, hkey⟩)
    refine eq_false_of_ne_true fun hcontains => ?_
    rcases List.mem_cons.mp (contains_samples_iff.mp hcontains).1 with heq | hmem
    · exact hne heq.symm
    · exact of_decide_eq_true (List.mem_filter.mp hmem).2 rfl

end Always

/-- In all accepted commands keys are read for no other declaration than the one they were checked
against, exactly if no two of the applicable declarations share a key. -/
theorem alwaysReadAsChecked_iff (hschema : catalog.get? command = some schema)
    (hsub : ∀ name ∈ subcommand, (schema.subcommand? name).isSome = true) :
    AlwaysReadAsChecked catalog schema command subcommand ↔
      Unambiguous (schema.applicableFlags subcommand) := by
  constructor
  · intro hread
    refine unambiguous_of_find?_eq fun spec hspec key hkey => ?_
    rcases FlagSpec.matchesKey_iff.mp hkey with rfl | hshort
    · exact find?_name_eq hschema hsub hread hspec
    · by_cases hne : key = spec.name
      · rw [hne]
        exact find?_name_eq hschema hsub hread hspec
      · exact find?_short_eq hschema hsub hread hspec hshort hne
  · rintro h parsed - rfl -
    exact readAsChecked_of_unambiguous h

/-! ## A flag that is repeated -/

/-- A command with a text flag, and a subcommand that repeats it as a number. -/
def levelSchema : Schema where
  name := "set"
  subcommands := [{ name := "profile", flags := [{ name := "level", kind := .number }] }]
  flags := [{ name := "level" }]

def levelCatalog : Catalog := .ofList [levelSchema]

def levelCommand : Parsed where
  command := "set"
  subcommand := some "profile"
  flags := ⟨[("level", .text "high")], by decide⟩
  raw := "/set profile --level high"

theorem level_shared_with_profile :
    levelCatalog.get? "set" = some levelSchema ∧
      (levelSchema.subcommand? "profile").isSome = true ∧
      AlwaysReadAsChecked levelCatalog levelSchema "set" none ∧
      ¬ AlwaysReadAsChecked levelCatalog levelSchema "set" (some "profile") := by
  have hschema : levelCatalog.get? "set" = some levelSchema := by decide +kernel
  have hprofile : (levelSchema.subcommand? "profile").isSome = true := by decide +kernel
  have hsub : ∀ name ∈ some "profile", (levelSchema.subcommand? name).isSome = true := by
    rintro name ⟨⟩
    exact hprofile
  refine ⟨hschema, hprofile, ?_, fun halways => ?_⟩
  · have hnone : ∀ name ∈ none, (levelSchema.subcommand? name).isSome = true := by
      rintro name ⟨⟩
    refine (alwaysReadAsChecked_iff hschema hnone).mpr fun spec hspec other hother _ _ _ => ?_
    exact (List.mem_singleton.mp hother).trans (List.mem_singleton.mp hspec).symm
  · have hshared := (alwaysReadAsChecked_iff hschema hsub).mp halways
    have heq : ({ name := "level", kind := .number } : FlagSpec) = { name := "level" } :=
      hshared _ List.mem_cons_self _ (List.mem_cons_of_mem _ List.mem_cons_self) "level"
        (by decide) (by decide)
    cases heq

/-- The text is checked as the command's flag, accepted, and read as the subcommand's: no number
comes of it. -/
theorem level_read_unchecked :
    parse levelCatalog "/set profile --level high" = .ok levelCommand ∧
      isValid levelCatalog levelCommand = true ∧
      (coerceFlags levelCatalog levelCommand).get? "level" = some .null ∧
      ¬ ReadAsChecked levelSchema levelCommand := by
  have htokens : tokenize (Text.trim levelCommand.raw) = ["set", "profile", "--level", "high"] := by
    decide +kernel
  have hparse : parse levelCatalog levelCommand.raw = .ok levelCommand :=
    (parse_of_tokens (by decide +kernel) htokens).trans (congrArg Except.ok (by decide +kernel))
  refine ⟨hparse, by decide +kernel, by decide +kernel, fun hread => ?_⟩
  have hchecked := hread "level" (by decide) { name := "level", kind := .number }
    (by decide +kernel) (by decide +kernel)
  exact absurd hchecked (by decide +kernel)

end SlashLine.Command
