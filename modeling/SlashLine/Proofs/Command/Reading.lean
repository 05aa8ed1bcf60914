import SlashLine.Proofs.Command.Fitting
import SlashLine.Proofs.Command.Positions
import SlashLine.Proofs.Command.Writing

/-!
# Commands that are read

What is known of a command because it was read, whatever the text and the catalogue are. Tokens are
trimmed and not empty; arguments and values are tokens, and a dash at the start of a token makes it
a flag, unless it is alone. A subcommand is only read where it is declared. Checking answers every
command with the list of its misfits, and the two misfits of subcommands are in no list of a command
that was read.

* `neat_of_mem_tokenize`: the tokens of a text are neat.
* `argument_of_mem_splitTokens`, `takenFrom_of_mem_splitTokens`: where arguments and values are
  taken from.
* `parse_eq_ok_iff`: which texts are read as a command, and as which one.
* `Parsed.Regular`, `parse_regular`: what a command that was read is like.
-/

namespace SlashLine.Command

/-! ## Tokens -/

theorem neat_ofList_trimList {cs : List Char} (h : Text.trimList cs ≠ []) :
    Neat (String.ofList (Text.trimList cs)) := by
  refine ⟨fun e => h (String.ofList_eq_empty_iff.mp e), ?_⟩
  rw [Text.trim, String.toList_ofList, Text.trimList_trimList]

theorem neat_of_mem_keepToken {token : List Char} {later : List (List Char)}
    (hlater : ∀ t ∈ later, Neat (String.ofList t)) :
    ∀ t ∈ keepToken token later, Neat (String.ofList t) := by
  unfold keepToken
  split
  · exact hlater
  · next c cs hcons =>
    intro t ht
    rcases List.mem_cons.mp ht with rfl | hmem
    · rw [← hcons]
      exact neat_ofList_trimList (hcons ▸ List.cons_ne_nil c cs)
    · exact hlater t hmem

/-- Whatever is scanned, no token keeps a blank at either end or is empty. -/
theorem neat_of_mem_scanToken (quote? : Option Char) (cs : List Char) :
    ∀ t ∈ (scanToken quote? cs).2, Neat (String.ofList t) := by
  induction cs generalizing quote? with
  | nil => cases quote? <;> exact fun t ht => absurd ht List.not_mem_nil
  | cons c cs ih =>
    cases quote? with
    | none =>
      cases hquote : isQuote c with
      | true =>
        rw [scanToken_cons_quote _ hquote]
        exact ih (some c)
      | false =>
        cases hblank : Text.isBlank c with
        | true =>
          rw [scanToken_cons_blank _ hblank]
          exact neat_of_mem_keepToken (ih none)
        | false =>
          rw [scanToken_cons_bare _ hblank hquote]
          exact ih none
    | some quote =>
      by_cases hclosing : c = quote
      · rw [hclosing, scanToken_cons_closing]
        exact ih none
      · rw [scanToken_cons_inside _ hclosing]
        exact ih (some quote)

/-- Tokens are neat. -/
theorem neat_of_mem_tokenize {text token : String} (h : token ∈ tokenize text) : Neat token := by
  obtain ⟨t, ht, rfl⟩ := List.mem_map.mp h
  exact neat_of_mem_keepToken (neat_of_mem_scanToken none _) t ht

/-! ## Flags and arguments -/

/-- The arguments are tokens that give no flags. -/
theorem argument_of_mem_splitTokens {tokens : List String} {argument : String}
    (h : argument ∈ (splitTokens tokens).2) :
    argument ∈ tokens ∧ isFlagToken argument = false := by
  rw [splitTokens_eq] at h
  obtain ⟨position, hmem, rfl⟩ := List.mem_map.mp h
  obtain ⟨hposition, hplays⟩ := List.mem_filter.mp hmem
  have hrole : position.Plays .argument := of_decide_eq_true hplays
  exact ⟨(mem_of_mem_positions hposition).1, isFlagToken_eq_false_iff.mpr hrole.1⟩

/-- A flag is present, or has one of the tokens for its value, which starts with no dash. -/
def TakenFrom (tokens : List String) (value : FlagValue) : Prop :=
  value = .present true ∨ ∃ text ∈ tokens, startsDash text = false ∧ value = .text text

/-- The value of a flag is a token of the line, or that the flag is present. -/
theorem takenFrom_of_mem_splitTokens {tokens : List String} {p : String × FlagValue}
    (h : p ∈ (splitTokens tokens).1) : TakenFrom tokens p.2 := by
  rw [splitTokens_eq] at h
  obtain ⟨position, hposition, hwrites⟩ := List.mem_flatMap.mp h
  refine (Position.value_of_mem_writes hwrites).imp_right ?_
  rintro ⟨text, htaken, hvalue⟩
  obtain ⟨hafter, hplain⟩ := Option.filter_eq_some_iff.mp htaken
  exact ⟨text, (mem_of_mem_positions hposition).2 text hafter, by simpa using hplain, hvalue⟩

theorem eq_dash_of_isFlagToken_eq_false {token : String} (h : isFlagToken token = false) :
    token = "-" ∨ token.toList.head? ≠ some '-' := by
  cases hdash : startsDash token with
  | true => exact Or.inl (eq_dash_of_not_givesFlags (isFlagToken_eq_false_iff.mp h) hdash)
  | false => exact Or.inr (startsDash_eq_false_iff.mp hdash)

/-! ## What is read -/

variable {catalog : Catalog} {input : String} {parsed : Parsed}

/-- A text is read if it starts with a slash and has a token. -/
theorem parse_eq_ok_iff :
    parse catalog input = .ok parsed ↔
      startsSlash (Text.trimList input.toList) = true ∧
        ∃ command rest, tokenize (Text.trim input) = command :: rest ∧
          parsed = .ofTokens catalog (Text.trim input) command rest := by
  constructor
  · intro h
    unfold parse at h
    dsimp only at h
    split at h
    · cases h
    · next hslash =>
      split at h
      · cases h
      · next command rest htokens =>
        cases h
        exact ⟨by simpa using hslash, command, rest, htokens, rfl⟩
  · rintro ⟨hslash, command, rest, htokens, rfl⟩
    exact parse_of_tokens hslash htokens

/-- A token is read as a subcommand only if the command declares it. -/
theorem declares_of_subcommandToken? {command name : String} {rest : List String}
    (h : subcommandToken? catalog command rest = some name) : Declares catalog command name := by
  unfold subcommandToken? at h
  split at h
  · next schema token later hschema =>
    obtain ⟨sub, hsub, rfl⟩ := Option.map_eq_some_iff.mp h
    have hnamed := List.find?_some hsub
    have hname : sub.name = token := beq_iff_eq.mp hnamed
    exact ⟨schema, hschema, List.mem_map.mpr ⟨sub, List.mem_of_find?_eq_some hsub, hname⟩⟩
  · cases h

theorem Declares.isSome_subcommand? {schema : Schema} {command name : String}
    (h : Declares catalog command name) (hschema : catalog.get? command = some schema) :
    (schema.subcommand? name).isSome = true := by
  obtain ⟨declared, hdeclared, hmem⟩ := h
  rw [hschema] at hdeclared
  cases hdeclared
  obtain ⟨sub, hsub, hname⟩ := List.mem_map.mp hmem
  exact List.find?_isSome.mpr ⟨sub, hsub, beq_iff_eq.mpr hname⟩

/-- A command as reading leaves it. -/
structure Parsed.Regular (parsed : Parsed) (catalog : Catalog) : Prop where
  command : Neat parsed.command
  arguments : ∀ argument ∈ parsed.arguments,
    Neat argument ∧ (argument = "-" ∨ argument.toList.head? ≠ some '-')
  /-- A flag is present or has a text: reading makes no numbers. -/
  values : ∀ value ∈ parsed.flags.values, value = .present true ∨
    ∃ text, value = .text text ∧ Neat text ∧ text.toList.head? ≠ some '-'
  subcommand : ∀ name ∈ parsed.subcommand, Declares catalog parsed.command name

/-- The tokens that flags and arguments are taken from. -/
def flagTokensOf (catalog : Catalog) (command : String) (rest : List String) : List String :=
  if (subcommandToken? catalog command rest).isSome then rest.drop 1 else rest

theorem mem_of_mem_flagTokensOf {command token : String} {rest : List String}
    (h : token ∈ flagTokensOf catalog command rest) : token ∈ rest := by
  unfold flagTokensOf at h
  split at h
  · exact List.mem_of_mem_drop h
  · exact h

/-- Tokens that are neat make a command of the shape that is promised. -/
theorem regular_ofTokens (catalog : Catalog) (raw : String) {command : String} {rest : List String}
    (hcommand : Neat command) (hrest : ∀ token ∈ rest, Neat token) :
    (Parsed.ofTokens catalog raw command rest).Regular catalog where
  command := hcommand
  arguments argument hargument := by
    have hmem : argument ∈ (splitTokens (flagTokensOf catalog command rest)).2 := hargument
    obtain ⟨htoken, hflag⟩ := argument_of_mem_splitTokens hmem
    exact ⟨hrest argument (mem_of_mem_flagTokensOf htoken), eq_dash_of_isFlagToken_eq_false hflag⟩
  values value hvalue := by
    obtain ⟨⟨key, value⟩, hentry, rfl⟩ := List.mem_map.mp hvalue
    have hmem : (key, value) ∈ (splitTokens (flagTokensOf catalog command rest)).1 :=
      Slots.mem_of_mem_ofList hentry
    refine (takenFrom_of_mem_splitTokens hmem).imp_right ?_
    rintro ⟨text, htext, hdash, heq⟩
    exact ⟨text, heq, hrest text (mem_of_mem_flagTokensOf htext),
      startsDash_eq_false_iff.mp hdash⟩
  subcommand _ hname := declares_of_subcommandToken? hname

/-! ## What is checked -/

/-- The misfit is one of the subcommand. -/
def Violation.isSubcommands : Violation → Bool
  | noSubcommands _ => true
  | unknownSubcommand _ _ _ => true
  | _ => false

theorem isSubcommands_of_flagViolation? {specs : List FlagSpec} {key : String} {value : FlagValue}
    {misfit : Violation} (h : flagViolation? specs key value = some misfit) :
    misfit.isSubcommands = false := by
  unfold flagViolation? at h
  split at h
  · cases h
    rfl
  · split at h
    · cases h
    · cases h
      rfl

theorem isSubcommands_of_missingViolation? {flags : Slots String FlagValue} {spec : FlagSpec}
    {misfit : Violation} (h : missingViolation? flags spec = some misfit) :
    misfit.isSubcommands = false := by
  unfold missingViolation? at h
  split at h
  · cases h
    rfl
  · cases h

/-- A subcommand that is declared is not complained about. -/
theorem isSubcommands_of_declares
    (hsub : ∀ name ∈ parsed.subcommand, Declares catalog parsed.command name) {misfit : Violation}
    (h : misfit ∈ violations catalog parsed) : misfit.isSubcommands = false := by
  unfold violations at h
  split at h
  · rw [List.mem_singleton.mp h]
    rfl
  · next schema hschema =>
    have hnone : subcommandViolations schema parsed = [] :=
      subcommandViolations_eq_nil_iff.mpr fun name hname =>
        (hsub name hname).isSome_subcommand? hschema
    rw [schemaViolations, hnone, List.nil_append] at h
    rcases List.mem_append.mp h with hflag | hmissing
    · obtain ⟨⟨key, value⟩, -, hof⟩ := List.mem_filterMap.mp hflag
      exact isSubcommands_of_flagViolation? hof
    · obtain ⟨spec, -, hof⟩ := List.mem_filterMap.mp hmissing
      exact isSubcommands_of_missingViolation? hof

/-- Whatever is read, from whatever text, is regular, and no misfit of a subcommand is found when
it is checked. -/
theorem parse_regular (h : parse catalog input = .ok parsed) :
    parsed.Regular catalog ∧
      ∀ misfit ∈ violations catalog parsed, misfit.isSubcommands = false := by
  obtain ⟨-, command, rest, htokens, rfl⟩ := parse_eq_ok_iff.mp h
  have hneat : ∀ token ∈ command :: rest, Neat token := fun token htoken =>
    neat_of_mem_tokenize (htokens ▸ htoken)
  have hregular := regular_ofTokens catalog (Text.trim input)
    (hneat command List.mem_cons_self) fun token htoken =>
      hneat token (List.mem_cons_of_mem command htoken)
  exact ⟨hregular, fun misfit hmisfit => isSubcommands_of_declares hregular.subcommand hmisfit⟩

/-- A command with a lone dash among its arguments, a value in quotes and a group of flags. -/
def addCommand : Parsed where
  command := "note"
  subcommand := some "add"
  arguments := ["-", "it's"]
  flags := ⟨[("title", .text "x y"), ("d", .present true), ("q", .present true)], by decide⟩
  raw := "/note add - \"it's\" --title ' x y ' -dq"

theorem add_regular :
    parse noteCatalog addCommand.raw = .ok addCommand ∧ addCommand.Regular noteCatalog ∧
      (∀ misfit ∈ violations noteCatalog addCommand, misfit.isSubcommands = false) ∧
      violations noteCatalog addCommand =
        [.unknownFlag "title", .unknownFlag "d", .unknownFlag "q"] := by
  have htokens : tokenize (Text.trim addCommand.raw) =
      ["note", "add", "-", "it's", "--title", "x y", "-dq"] := by decide +kernel
  have hparse : parse noteCatalog addCommand.raw = .ok addCommand :=
    (parse_of_tokens (by decide +kernel) htokens).trans (congrArg Except.ok (by decide +kernel))
  obtain ⟨hregular, hmisfits⟩ := parse_regular hparse
  exact ⟨hparse, hregular, hmisfits, by decide +kernel⟩

end SlashLine.Command
