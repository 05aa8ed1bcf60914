import SlashLine.Proofs.Command.Reading

/-!
# Numbers that are typed

A command line gives a number to a flag in a quoted token of its own. Checking takes more texts for
numbers than a line can give: the quotes are dropped before flags are told from values, so a number
with a minus before it is taken for flags, and the flag that it was meant for is merely present.

* `NumberFlag`: a command that asks for one number.
* `numberLine`: the line that gives a text to its flag.
* `not_everyNumberTyped`: some numbers do not get through.
* `numberLine_delivers`: those that do are the ones without a dash before them.
-/

namespace SlashLine.Command

variable {key name command value : String}

theorem Bare.flag (h : Bare key) : Bare ("--" ++ key) := by
  have hdash : (!Text.isBlank '-' && !isQuote '-') = true := by decide
  refine ⟨(neat_flag ?_).1, ?_⟩
  · have hchars := trimList_neat h.neat
    rw [← hchars]
    exact Text.trimEnd_trimEnd _
  · rw [toList_flag, List.all_cons, List.all_cons, hdash, h.2]
    rfl

/-! ## The line for a number -/

/-- The line that gives a text to a flag, in double quotes. -/
def numberLine (command name value : String) : String :=
  "/" ++ command ++ " --" ++ name ++ " \"" ++ value ++ "\""

/-- Quotes and blanks aside, a text of this kind is a token. -/
structure Quotable (value : String) : Prop where
  unquoted : ∀ c ∈ value.toList, isQuote c = false
  trimmed : Text.trim value = value

instance (value : String) : Decidable (Quotable value) :=
  decidable_of_iff ((value.toList.all fun c => !isQuote c) = true ∧ Text.trim value = value) (by
    simp only [List.all_eq_true, Bool.not_eq_true']
    exact ⟨fun h => ⟨h.1, h.2⟩, fun h => ⟨h.unquoted, h.trimmed⟩⟩)

/-- The quotes around the value are gone once the line is in tokens. -/
theorem tokenize_numberLine (hcommand : Bare command) (hname : Bare name)
    (hvalue : Quotable value) (hne : value ≠ "") :
    startsSlash (Text.trimList (numberLine command name value).toList) = true ∧
      tokenize (Text.trim (numberLine command name value)) =
        [command, "--" ++ name, value] := by
  have hspace : ∀ c ∈ [' '], Text.isBlank c := by
    intro c hc
    rw [List.mem_singleton.mp hc]
    decide
  have hnone : ∀ c ∈ ([] : List Char), Text.isBlank c := fun c hc => absurd hc List.not_mem_nil
  have hquote : '"' ∉ value.toList := by
    intro hmem
    have hfalse := hvalue.unquoted '"' hmem
    cases hfalse
  have hquoted : Spells ('"' :: (value.toList ++ ['"'])) value.toList :=
    Spells.quotedToken (by decide) hquote
  have hrest : Follows _ ["--" ++ name, value] :=
    .cons hspace (by decide) hname.flag.spells (.cons hspace (by decide) hquoted .nil)
  have hneat : ∀ token ∈ ["--" ++ name, value], Neat token := by
    intro token htoken
    rcases List.mem_cons.mp htoken with rfl | hlast
    · exact hname.flag.neat
    · rw [List.mem_singleton.mp hlast]
      exact ⟨hne, hvalue.trimmed⟩
  refine tokenize_spelled hnone hnone hcommand.spells hcommand.neat hrest hneat hnone ?_
  rw [← String.ofList_toList (s := numberLine command name value)]
  simp [numberLine]

/-! ## The flag that a number is for -/

/-- A command that asks for one number: nothing else has to be given, and no other flag takes the
name of the number's. -/
structure NumberFlag (catalog : Catalog) (command : String) (schema : Schema) (spec : FlagSpec) :
    Prop where
  known : catalog.get? command = some schema
  subcommands : schema.subcommands = []
  declared : spec ∈ schema.flags
  kind : spec.kind = .number
  sole : ∀ other ∈ schema.flags, other.matchesKey spec.name = true → other = spec
  required : ∀ other ∈ schema.flags, other.required = true → other = spec
  command : Bare command
  name : Bare spec.name ∧ spec.name.toList.head? ≠ some '-'

variable {catalog : Catalog} {schema : Schema} {spec : FlagSpec} {x : Binary64}

theorem parseNumber_ne_empty (h : parseNumber value = some x) : value ≠ "" := by
  rintro rfl
  have hnone : parseNumber "" = none := by decide
  rw [hnone] at h
  cases h

theorem applicableFlags_none (schema : Schema) : schema.applicableFlags none = schema.flags :=
  List.append_nil _

namespace NumberFlag

/-- The line parses to the command with what the flag makes of the value. -/
theorem parse (h : NumberFlag catalog command schema spec) (hvalue : Quotable value)
    (hne : value ≠ "") :
    parse catalog (numberLine command spec.name value) = .ok
      { command
        arguments := (splitTokens ["--" ++ spec.name, value]).2
        flags := Slots.ofList (splitTokens ["--" ++ spec.name, value]).1
        raw := Text.trim (numberLine command spec.name value) } := by
  obtain ⟨hslash, htokens⟩ := tokenize_numberLine h.command h.name.1 hvalue hne
  have hnone : subcommandToken? catalog command ["--" ++ spec.name, value] = none := by
    apply subcommandToken?_of_not_declares
    rintro token - ⟨declared, hdeclared, hmem⟩
    rw [h.known] at hdeclared
    cases hdeclared
    rw [h.subcommands] at hmem
    cases hmem
  rw [parse_of_tokens hslash htokens, Parsed.ofTokens, hnone]
  rfl

/-- Without a dash the text is the value of the flag. -/
theorem flags_of_no_dash (name : String) (hdash : value.toList.head? ≠ some '-') :
    Slots.ofList (splitTokens ["--" ++ name, value]).1 =
      Slots.ofList [(name, FlagValue.text value)] := by
  rw [splitTokens_valued name (startsDash_eq_false_iff.mpr hdash)]
  rfl

/-- With a dash the flag is merely present, whatever flags the text is taken for. -/
theorem get?_flags_of_dash (name : String) (hdash : value.toList.head? = some '-') :
    (Slots.ofList (splitTokens ["--" ++ name, value]).1).get? name = some (.present true) := by
  have hnext : ∀ next ∈ [value].head?, startsDash next = true := by
    rintro next ⟨⟩
    rw [startsDash, hdash]
    rfl
  have hpresent : ∀ p ∈ (splitTokens [value]).1, p.2 = FlagValue.present true := by
    intro p hp
    rcases takenFrom_of_mem_splitTokens hp with hpresent | ⟨text, htext, hplain, -⟩
    · exact hpresent
    · rw [List.mem_singleton.mp htext, hnext value rfl] at hplain
      cases hplain
  rw [splitTokens_present name hnext]
  rcases Slots.get?_ofList ((name, FlagValue.present true) :: (splitTokens [value]).1) name with
    ⟨hnot, -⟩ | ⟨v, hmem, hget⟩
  · exact absurd List.mem_cons_self hnot
  · rcases List.mem_cons.mp hmem with heq | hlater
    · cases heq
      exact hget
    · rw [hget]
      exact congrArg some (hpresent _ hlater)

theorem find?_eq (h : NumberFlag catalog command schema spec) :
    FlagSpec.find? (schema.applicableFlags none) spec.name = some spec := by
  rw [applicableFlags_none]
  exact FlagSpec.find?_eq_of_sole h.declared spec.matchesKey_name h.sole

/-- A command with the number under the name of its flag fits its schema. -/
theorem fits (h : NumberFlag catalog command schema spec) (hnumber : parseNumber value = some x)
    {parsed : Parsed} (hsub : parsed.subcommand = none)
    (hflags : parsed.flags = Slots.ofList [(spec.name, .text value)]) : Fits schema parsed := by
  have hgiven : parsed.flags.get? spec.name = some (.text value) := by
    rw [hflags]
    exact if_pos rfl
  refine ⟨?_, ?_, ?_⟩
  · intro name hname
    rw [hsub] at hname
    cases hname
  · intro key v hget
    have hmem := (Slots.mem_entries_iff _ key v).mpr hget
    rw [hflags] at hmem
    cases List.mem_singleton.mp (Slots.mem_of_mem_ofList hmem)
    rw [hsub]
    refine ⟨spec, h.find?_eq, ?_⟩
    rw [h.kind]
    exact Option.isSome_of_eq_some hnumber
  · intro other hother hrequired
    rw [hsub, applicableFlags_none] at hother
    rw [h.required other hother hrequired, FlagSpec.given?_of_name hgiven]
    rfl

/-- A number under the name of the flag comes out as that number. -/
theorem coerced (h : NumberFlag catalog command schema spec) (hnumber : parseNumber value = some x)
    {parsed : Parsed} (hcommand : parsed.command = command) (hsub : parsed.subcommand = none)
    (hgiven : parsed.flags.get? spec.name = some (.text value)) :
    (coerceFlags catalog parsed).get? spec.name = some (.float x) := by
  have hschema : catalog.get? parsed.command = some schema := hcommand ▸ h.known
  have hflags : schema.applicableFlags parsed.subcommand = schema.flags := by
    rw [hsub, applicableFlags_none]
  have hcoerce : spec.coerce (.text value) = .float x := by
    simp [FlagSpec.coerce, h.kind, hnumber]
  rw [get?_coerceFlags_of_sole hschema (hflags ▸ h.declared) (hflags ▸ h.sole),
    FlagSpec.value?_of_given (FlagSpec.given?_of_name hgiven), hcoerce]

/-- A flag for a number that is merely present is complained about. -/
theorem mistyped (h : NumberFlag catalog command schema spec) {parsed : Parsed}
    (hcommand : parsed.command = command) (hsub : parsed.subcommand = none)
    (hgiven : parsed.flags.get? spec.name = some (.present true)) :
    .mistyped spec.name .number ∈ violations catalog parsed := by
  have hschema : catalog.get? parsed.command = some schema := hcommand ▸ h.known
  have hentry := (Slots.mem_entries_iff _ _ _).mpr hgiven
  have hmisfit : flagViolation? (schema.applicableFlags parsed.subcommand) spec.name
      (.present true) = some (.mistyped spec.name .number) := by
    simp [flagViolation?, hsub, h.find?_eq, h.kind, FlagKind.accepts]
  simp only [violations, hschema, schemaViolations, List.mem_append]
  exact Or.inl (Or.inr (List.mem_filterMap.mpr ⟨_, hentry, hmisfit⟩))

end NumberFlag

/-! ## What becomes of a number -/

/-- Whatever is taken for a number can be typed. -/
def EveryNumberTyped : Prop :=
  ∀ (catalog : Catalog) (command : String) (schema : Schema) (spec : FlagSpec) (value : String)
    (x : Binary64), NumberFlag catalog command schema spec → Quotable value →
      parseNumber value = some x →
        ∃ parsed, parse catalog (numberLine command spec.name value) = .ok parsed ∧
          isValid catalog parsed = true ∧
          (coerceFlags catalog parsed).get? spec.name = some (.float x)

/-- A command that asks for a number, which may well be below zero. -/
def offsetFlag : FlagSpec where
  name := "offset"
  kind := .number
  required := true

def moveSchema : Schema where
  name := "move"
  flags := [offsetFlag]

def moveCatalog : Catalog := .ofList [moveSchema]

theorem moveCatalog_numberFlag : NumberFlag moveCatalog "move" moveSchema offsetFlag where
  known := by decide +kernel
  subcommands := rfl
  declared := List.mem_cons_self
  kind := rfl
  sole _ hother _ := List.mem_singleton.mp hother
  required _ hother _ := List.mem_singleton.mp hother
  command := by decide +kernel
  name := by decide +kernel

/-- The number is taken for a flag of its own. -/
def moveBack : Parsed where
  command := "move"
  flags := ⟨[("offset", .present true), ("5", .present true)], by decide⟩
  raw := "/move --offset \"-5\""

theorem not_everyNumberTyped :
    (∃ x, parseNumber "-5" = some x) ∧
      parse moveCatalog (numberLine "move" "offset" "-5") = .ok moveBack ∧
      violations moveCatalog moveBack = [.mistyped "offset" .number, .unknownFlag "5"] ∧
      ¬ EveryNumberTyped := by
  have hvalue : Quotable "-5" := by decide +kernel
  have hnumber : ∃ x, parseNumber "-5" = some x :=
    Option.isSome_iff_exists.mp (by decide +kernel)
  have hparse : parse moveCatalog (numberLine "move" "offset" "-5") = .ok moveBack :=
    (moveCatalog_numberFlag.parse hvalue (by decide)).trans
      (congrArg Except.ok (by decide +kernel))
  refine ⟨hnumber, hparse, by decide +kernel, fun htyped => ?_⟩
  obtain ⟨x, hx⟩ := hnumber
  obtain ⟨parsed, hparsed, hvalid, -⟩ := htyped _ _ _ _ _ x moveCatalog_numberFlag hvalue hx
  have heq : moveBack = parsed := Except.ok.inj (hparse.symm.trans hparsed)
  rw [← heq] at hvalid
  exact absurd hvalid (by decide +kernel)

/-- A line that gives a number to its flag is always read. Unless the number starts with a dash, the
command is accepted and the flag has just this number; with a dash, the flag is merely present, and
found to have no number. -/
theorem numberLine_delivers (hflag : NumberFlag catalog command schema spec)
    (hvalue : Quotable value) (hnumber : parseNumber value = some x) :
    ∃ parsed, parse catalog (numberLine command spec.name value) = .ok parsed ∧
      (value.toList.head? ≠ some '-' → isValid catalog parsed = true ∧
        (coerceFlags catalog parsed).get? spec.name = some (.float x)) ∧
      (value.toList.head? = some '-' →
        parsed.flags.get? spec.name = some (.present true) ∧
        .mistyped spec.name .number ∈ violations catalog parsed) := by
  refine ⟨_, hflag.parse hvalue (parseNumber_ne_empty hnumber), fun hdash => ?_, fun hdash => ?_⟩
  · have hflags := NumberFlag.flags_of_no_dash spec.name hdash
    refine ⟨isValid_iff.mpr ⟨schema, hflag.known, hflag.fits hnumber rfl hflags⟩, ?_⟩
    apply hflag.coerced hnumber rfl rfl
    dsimp only
    rw [hflags]
    exact if_pos rfl
  · have hpresent := NumberFlag.get?_flags_of_dash spec.name hdash
    exact ⟨hpresent, hflag.mistyped rfl rfl hpresent⟩

/-- A number with a sign, a point and a power of ten, and the same below zero. -/
theorem offset_delivered :
    NumberFlag moveCatalog "move" moveSchema offsetFlag ∧ Quotable "+.5e1" ∧ Quotable "-.5e1" ∧
      (∃ x parsed, parseNumber "+.5e1" = some x ∧
        parse moveCatalog "/move --offset \"+.5e1\"" = .ok parsed ∧
        isValid moveCatalog parsed = true ∧
        (coerceFlags moveCatalog parsed).get? "offset" = some (.float x)) ∧
      ∃ parsed, parse moveCatalog "/move --offset \"-.5e1\"" = .ok parsed ∧
        parsed.flags.get? "offset" = some (.present true) ∧
        .mistyped "offset" .number ∈ violations moveCatalog parsed := by
  have habove : Quotable "+.5e1" := by decide +kernel
  have hbelow : Quotable "-.5e1" := by decide +kernel
  obtain ⟨x, hx⟩ : ∃ x, parseNumber "+.5e1" = some x :=
    Option.isSome_iff_exists.mp (by decide +kernel)
  obtain ⟨y, hy⟩ : ∃ y, parseNumber "-.5e1" = some y :=
    Option.isSome_iff_exists.mp (by decide +kernel)
  obtain ⟨parsed, hparse, hdelivered, -⟩ := numberLine_delivers moveCatalog_numberFlag habove hx
  obtain ⟨hvalid, hcoerced⟩ := hdelivered (by decide)
  obtain ⟨refused, hrefused, -, hpresent⟩ :=
    numberLine_delivers moveCatalog_numberFlag hbelow hy
  exact ⟨moveCatalog_numberFlag, habove, hbelow, ⟨x, parsed, hx, hparse, hvalid, hcoerced⟩,
    refused, hrefused, hpresent (by decide)⟩

end SlashLine.Command
