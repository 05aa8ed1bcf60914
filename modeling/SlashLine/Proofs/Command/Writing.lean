import SlashLine.Command.Parsed
import SlashLine.Proofs.Command.Spelling

/-!
# Commands that are written

A command is written as a slash and its tokens: its name, a subcommand, the arguments, and each flag
as two dashes and its key, with the value in a token of its own. However the tokens are spelled and
whatever blanks are between them, reading the text gives the command back.

* `Draft`: a command to be written; `Draft.Writable` says which ones can be.
* `Draft.WrittenAs`: the texts a command can be written as.
* `splitTokens_arguments`, `splitTokens_flags`: arguments and flags are told apart.
* `parse_written`: reading undoes writing.
-/

namespace SlashLine.Command

/-! ## Drafts -/

/-- A command to be written. A flag has a value or is merely present. -/
structure Draft where
  command : String
  subcommand : Option String := none
  arguments : List String := []
  flags : Slots String (Option String) := Slots.empty

/-- What a flag carries once it is read. -/
def carried : Option String → FlagValue
  | none => .present true
  | some value => .text value

/-- The tokens of a flag. -/
def flagTokens (flag : String × Option String) : List String :=
  ("--" ++ flag.1) :: flag.2.toList

/-- The command's declaration has a subcommand of a name. -/
def Declares (catalog : Catalog) (command name : String) : Prop :=
  ∃ schema, catalog.get? command = some schema ∧ name ∈ schema.subcommands.map Subcommand.name

namespace Draft

/-- The tokens after the command's name. -/
def tokens (draft : Draft) : List String :=
  draft.subcommand.toList ++ (draft.arguments ++ draft.flags.entries.flatMap flagTokens)

/-- A command that can be written without being taken for another one. -/
structure Writable (draft : Draft) (catalog : Catalog) : Prop where
  command : Neat draft.command
  subcommand : ∀ name ∈ draft.subcommand, Neat name ∧ Declares catalog draft.command name
  /-- Without a subcommand, the token after the name is not taken for one. -/
  unambiguous : draft.subcommand = none →
    ∀ token ∈ draft.tokens.head?, ¬ Declares catalog draft.command token
  arguments : ∀ argument ∈ draft.arguments,
    Neat argument ∧ (argument = "-" ∨ argument.toList.head? ≠ some '-')
  keys : ∀ key ∈ draft.flags.keys, Text.trimEnd key.toList = key.toList
  values : ∀ value, some value ∈ draft.flags.values →
    Neat value ∧ value.toList.head? ≠ some '-'

/-- The texts a command is written as: a slash, its name and the other tokens. There may be blanks
before and after it, and between the slash and the name. -/
inductive WrittenAs (draft : Draft) : String → Prop
  | intro {before gap name rest after : List Char} (hbefore : ∀ c ∈ before, Text.isBlank c)
      (hgap : ∀ c ∈ gap, Text.isBlank c) (hname : Spells name draft.command.toList)
      (hrest : Follows rest draft.tokens) (hafter : ∀ c ∈ after, Text.isBlank c) :
      WrittenAs draft (String.ofList (before ++ ('/' :: (gap ++ (name ++ rest)) ++ after)))

end Draft

/-! ## Flags and arguments -/

theorem startsDash_eq_false_iff {token : String} :
    startsDash token = false ↔ token.toList.head? ≠ some '-' := by
  simp [startsDash]

theorem toList_flag (key : String) : ("--" ++ key).toList = '-' :: '-' :: key.toList := by
  rw [String.toList_append]
  rfl

theorem startsDash_flag (key : String) : startsDash ("--" ++ key) = true := by
  rw [startsDash, toList_flag]
  rfl

theorem isFlagToken_flag (key : String) : isFlagToken ("--" ++ key) = true := by
  rw [isFlagToken, toList_flag]
  rfl

theorem flagWrites_flag (key : String) (value : FlagValue) :
    flagWrites ("--" ++ key) value = [(key, value)] := by
  rw [flagWrites, toList_flag]
  simp only [String.ofList_toList]

theorem isFlagToken_argument {argument : String}
    (h : argument = "-" ∨ argument.toList.head? ≠ some '-') : isFlagToken argument = false := by
  rcases h with rfl | hdash
  · decide
  · unfold isFlagToken
    split
    · next c cs hchars =>
      rw [hchars] at hdash
      exact absurd rfl hdash
    · rfl

theorem splitTokens_argument {token : String} (h : isFlagToken token = false)
    (rest : List String) :
    splitTokens (token :: rest) = ((splitTokens rest).1, token :: (splitTokens rest).2) := by
  cases rest with
  | nil => simp [splitTokens, h]
  | cons next rest => simp [splitTokens, h]

theorem splitTokens_arguments {arguments : List String}
    (h : ∀ argument ∈ arguments, isFlagToken argument = false) (rest : List String) :
    splitTokens (arguments ++ rest) =
      ((splitTokens rest).1, arguments ++ (splitTokens rest).2) := by
  induction arguments with
  | nil => rfl
  | cons argument arguments ih =>
    have hlater := ih fun a ha => h a (List.mem_cons_of_mem argument ha)
    rw [List.cons_append, splitTokens_argument (h argument List.mem_cons_self), hlater,
      List.cons_append]

/-- A flag takes the token after it, unless that starts with a dash. -/
theorem splitTokens_valued (key : String) {value : String} (h : startsDash value = false)
    (rest : List String) :
    splitTokens (("--" ++ key) :: value :: rest) =
      ((key, .text value) :: (splitTokens rest).1, (splitTokens rest).2) := by
  simp [splitTokens, isFlagToken_flag, h, flagWrites_flag]

/-- A flag that is followed by no value is merely present. -/
theorem splitTokens_present (key : String) {rest : List String}
    (h : ∀ next ∈ rest.head?, startsDash next = true) :
    splitTokens (("--" ++ key) :: rest) =
      ((key, .present true) :: (splitTokens rest).1, (splitTokens rest).2) := by
  cases rest with
  | nil => simp [splitTokens, isFlagToken_flag, flagWrites_flag]
  | cons next rest =>
    have hnext : startsDash next = true := h next rfl
    simp [splitTokens, isFlagToken_flag, hnext, flagWrites_flag]

/-- Flags that are written one after the other are read back in their order. -/
theorem splitTokens_flags {flags : List (String × Option String)}
    (h : ∀ value, some value ∈ flags.map Prod.snd → startsDash value = false) :
    splitTokens (flags.flatMap flagTokens) = (flags.map fun p => (p.1, carried p.2), []) := by
  induction flags with
  | nil => rfl
  | cons flag flags ih =>
    obtain ⟨key, value⟩ := flag
    have hlater := ih fun v hv => h v (List.mem_cons_of_mem _ hv)
    rw [List.flatMap_cons, List.map_cons]
    cases value with
    | none =>
      have hnext : ∀ next ∈ (flags.flatMap flagTokens).head?, startsDash next = true := by
        intro next hnext
        cases flags with
        | nil => cases hnext
        | cons flag' flags =>
          cases hnext
          exact startsDash_flag flag'.1
      change splitTokens (("--" ++ key) :: flags.flatMap flagTokens) = _
      rw [splitTokens_present key hnext, hlater]
      rfl
    | some value =>
      have hvalue : startsDash value = false := h value List.mem_cons_self
      change splitTokens (("--" ++ key) :: value :: flags.flatMap flagTokens) = _
      rw [splitTokens_valued key hvalue, hlater]
      rfl

/-! ## Subcommands -/

variable {catalog : Catalog} {command : String}

/-- The first token is read as a subcommand if it is declared, and then it is no argument. -/
theorem subcommandToken?_of_declares {token : String} (h : Declares catalog command token)
    (rest : List String) : subcommandToken? catalog command (token :: rest) = some token := by
  obtain ⟨schema, hschema, hname⟩ := h
  have hsome : (schema.subcommand? token).isSome = true := by
    obtain ⟨sub, hsub, hname⟩ := List.mem_map.mp hname
    rw [Schema.subcommand?, List.find?_isSome]
    exact ⟨sub, hsub, beq_iff_eq.mpr hname⟩
  obtain ⟨sub, hsub⟩ := Option.isSome_iff_exists.mp hsome
  unfold subcommandToken?
  rw [hschema]
  show (schema.subcommand? token).map (fun _ => token) = some token
  rw [hsub]
  rfl

/-- Where the first token is not declared there is no subcommand. -/
theorem subcommandToken?_of_not_declares {rest : List String}
    (h : ∀ token ∈ rest.head?, ¬ Declares catalog command token) :
    subcommandToken? catalog command rest = none := by
  unfold subcommandToken?
  cases hschema : catalog.get? command with
  | none => rfl
  | some schema =>
    cases rest with
    | nil => rfl
    | cons token rest =>
      have hnone : schema.subcommand? token = none := by
        rw [Schema.subcommand?, List.find?_eq_none]
        intro sub hsub hname
        exact h token rfl ⟨schema, hschema, List.mem_map.mpr ⟨sub, hsub, beq_iff_eq.mp hname⟩⟩
      show (schema.subcommand? token).map (fun _ => token) = none
      rw [hnone]
      rfl

/-! ## Reading what was written -/

variable {draft : Draft} {text : String}

theorem neat_flag {key : String} (h : Text.trimEnd key.toList = key.toList) :
    Neat ("--" ++ key) := by
  have hdash : Text.isBlank '-' = false := by decide
  refine ⟨fun e => ?_, ?_⟩
  · have hchars := congrArg String.toList e
    rw [toList_flag] at hchars
    cases hchars
  · rw [Text.trim, Text.trimList, toList_flag, Text.trimStart_cons_of_not_isBlank hdash,
      Text.trimEnd_cons_of_not_isBlank hdash, Text.trimEnd_cons_of_not_isBlank hdash, h,
      ← toList_flag, String.ofList_toList]

theorem Draft.Writable.neat_tokens (h : draft.Writable catalog) :
    ∀ token ∈ draft.tokens, Neat token := by
  intro token htoken
  rcases List.mem_append.mp htoken with hsub | hlater
  · exact (h.subcommand token (Option.mem_toList.mp hsub)).1
  · rcases List.mem_append.mp hlater with hargument | hflag
    · exact (h.arguments token hargument).1
    · obtain ⟨⟨key, value⟩, hentry, hof⟩ := List.mem_flatMap.mp hflag
      rcases List.mem_cons.mp hof with rfl | hvalue
      · exact neat_flag (h.keys key (List.mem_map_of_mem hentry))
      · have heq : value = some token := Option.mem_toList.mp hvalue
        have hmem : some token ∈ draft.flags.values := heq ▸ List.mem_map_of_mem hentry
        exact (h.values token hmem).1

/-- The flags and arguments of a draft are read back from the tokens after its subcommand. -/
theorem Draft.Writable.parseFlags (h : draft.Writable catalog) :
    parseFlags (draft.arguments ++ draft.flags.entries.flatMap flagTokens) =
      (draft.flags.map carried, draft.arguments) := by
  have hflags := splitTokens_flags fun value hvalue =>
    startsDash_eq_false_iff.mpr (h.values value hvalue).2
  have hsplit := splitTokens_arguments (fun argument hargument =>
    isFlagToken_argument (h.arguments argument hargument).2)
    (draft.flags.entries.flatMap flagTokens)
  rw [hflags, List.append_nil] at hsplit
  rw [Command.parseFlags, hsplit]
  exact congrArg (·, draft.arguments) (Slots.ofList_entries (draft.flags.map carried))

/-- The tokens of a draft make the command that was drafted. -/
theorem Draft.Writable.ofTokens (h : draft.Writable catalog) (raw : String) :
    Parsed.ofTokens catalog raw draft.command draft.tokens =
      { command := draft.command, subcommand := draft.subcommand, arguments := draft.arguments,
        flags := draft.flags.map carried, raw } := by
  unfold Parsed.ofTokens
  cases hsub : draft.subcommand with
  | none =>
    have htokens : draft.tokens =
        draft.arguments ++ draft.flags.entries.flatMap flagTokens := by
      rw [Draft.tokens, hsub]
      rfl
    have hnone : subcommandToken? catalog draft.command draft.tokens = none :=
      subcommandToken?_of_not_declares (h.unambiguous hsub)
    rw [hnone, htokens]
    simp only [Option.isSome_none, Bool.false_eq_true, if_false, h.parseFlags]
  | some name =>
    have htokens : draft.tokens =
        name :: (draft.arguments ++ draft.flags.entries.flatMap flagTokens) := by
      rw [Draft.tokens, hsub]
      rfl
    have hsome : subcommandToken? catalog draft.command draft.tokens = some name := by
      rw [htokens]
      exact subcommandToken?_of_declares (h.subcommand name hsub).2 _
    rw [hsome, htokens]
    simp only [Option.isSome_some, if_true, List.drop_succ_cons, List.drop_zero, h.parseFlags]

/-- What is read off a slash with tokens spelled after it: the text between the blanks around it,
and the tokens in that. -/
theorem tokenize_spelled {before gap name rest after : List Char} {tokens : List String}
    (hbefore : ∀ c ∈ before, Text.isBlank c) (hgap : ∀ c ∈ gap, Text.isBlank c)
    (hname : Spells name command.toList) (hcommand : Neat command) (hrest : Follows rest tokens)
    (hneat : ∀ token ∈ tokens, Neat token) (hafter : ∀ c ∈ after, Text.isBlank c)
    (htext : text = String.ofList (before ++ ('/' :: (gap ++ (name ++ rest)) ++ after))) :
    startsSlash (Text.trimList text.toList) = true ∧
      tokenize (Text.trim text) = command :: tokens := by
  have hslash : Text.isBlank '/' = false := by decide
  have hink : EndsInInk ('/' :: (gap ++ (name ++ rest))) := by
    refine EndsInInk.append ?_ ('/' :: gap)
    rcases hrest.endsInInk hneat with hnil | hrestInk
    · rw [hnil, List.append_nil]
      exact hcommand.endsInInk hname
    · exact hrestInk.append name
  have htrim : Text.trimList text.toList = '/' :: (gap ++ (name ++ rest)) := by
    rw [htext, String.toList_ofList, Text.trimList_append_of_blank hbefore hafter hslash,
      hink.trimList hslash]
  refine ⟨?_, ?_⟩
  · rw [htrim]
    rfl
  · have htokens := scanToken_follows hrest hneat
    rw [Text.trim, htrim, Command.tokenize, String.toList_ofList, hink.trimList hslash, dropSlash,
      tokensFrom_gap hgap, tokensFrom_spelled hname hcommand htokens]
    have hback : String.ofList ∘ String.toList = id := funext fun s => String.ofList_toList
    rw [List.map_cons, List.map_map, hback, List.map_id, String.ofList_toList]

/-- Whatever blanks and quotes a draft is written with, its tokens are read back. -/
theorem Draft.WrittenAs.tokenize (hwritten : draft.WrittenAs text)
    (hwritable : draft.Writable catalog) :
    startsSlash (Text.trimList text.toList) = true ∧
      tokenize (Text.trim text) = draft.command :: draft.tokens := by
  obtain ⟨hbefore, hgap, hname, hrest, hafter⟩ := hwritten
  exact tokenize_spelled hbefore hgap hname hwritable.command hrest hwritable.neat_tokens hafter rfl

theorem parse_of_tokens {rest : List String}
    (hslash : startsSlash (Text.trimList text.toList) = true)
    (htokens : tokenize (Text.trim text) = command :: rest) :
    parse catalog text = .ok (.ofTokens catalog (Text.trim text) command rest) := by
  rw [Text.trim] at htokens ⊢
  unfold parse
  simp only [hslash, htokens, Bool.not_true, Bool.false_eq_true, if_false]

/-- Reading undoes writing: whatever a command is written as, the same command is read, with its
arguments and flags in order, and the text without the blanks around it. -/
theorem parse_written (hwritable : draft.Writable catalog) (hwritten : draft.WrittenAs text) :
    parse catalog text = .ok
      { command := draft.command
        subcommand := draft.subcommand
        arguments := draft.arguments
        flags := draft.flags.map carried
        raw := Text.trim text } := by
  obtain ⟨hslash, htokens⟩ := hwritten.tokenize hwritable
  rw [parse_of_tokens hslash htokens, hwritable.ofTokens]

/-- A command with two subcommands. -/
def noteCatalog : Catalog :=
  .ofList [{ name := "note", subcommands := [{ name := "add" }, { name := "list" }] }]

/-- A command with a lone dash and a quote among its arguments, and a value with a blank in it. -/
def noteDraft : Draft where
  command := "note"
  subcommand := some "add"
  arguments := ["-", "it's"]
  flags := ⟨[("title", some "x y"), ("dry", none)], by decide⟩

/-- One of the ways to write it. -/
def noteText : String := "\t/no\"te\" 'add' - \"it's\"\n--title x' y'  --dry "

theorem note_read_back :
    noteDraft.Writable noteCatalog ∧ noteDraft.WrittenAs noteText ∧
      parse noteCatalog noteText = .ok
        { command := "note"
          subcommand := some "add"
          arguments := ["-", "it's"]
          flags := ⟨[("title", .text "x y"), ("dry", .present true)], by decide⟩
          raw := "/no\"te\" 'add' - \"it's\"\n--title x' y'  --dry" } := by
  have hwritable : noteDraft.Writable noteCatalog :=
    { command := by decide +kernel
      subcommand := by
        rintro name ⟨⟩
        exact ⟨by decide +kernel, _, rfl, by decide +kernel⟩
      unambiguous := by
        intro hnone
        cases hnone
      arguments := by decide +kernel
      keys := by decide +kernel
      values := by
        intro value hvalue
        rcases List.mem_cons.mp hvalue with heq | hlater
        · cases heq
          decide +kernel
        · cases List.mem_singleton.mp hlater }
  have hblank : ∀ {gap : List Char}, gap.all Text.isBlank = true → ∀ c ∈ gap, Text.isBlank c :=
    List.all_eq_true.mp
  have hspace : ∀ c ∈ [' '], Text.isBlank c := hblank rfl
  have hname : Spells ['n', 'o', '"', 't', 'e', '"'] noteDraft.command.toList :=
    .bare (by decide) (by decide) (.bare (by decide) (by decide)
      (@Spells.quotedToken '"' ['t', 'e'] (by decide) (by decide)))
  have hvalue : Spells ['x', '\'', ' ', 'y', '\''] "x y".toList :=
    .bare (by decide) (by decide) (@Spells.quotedToken '\'' [' ', 'y'] (by decide) (by decide))
  have hrest : Follows _ noteDraft.tokens :=
    .cons hspace (by decide) (@Spells.quotedToken '\'' _ (by decide) (by decide))
      (.cons hspace (by decide) (.bareToken rfl)
        (.cons hspace (by decide) (@Spells.quotedToken '"' _ (by decide) (by decide))
          (@Follows.cons ['\n'] _ _ _ _ (hblank rfl) (by decide) (.bareToken rfl)
            (.cons hspace (by decide) hvalue
              (@Follows.cons [' ', ' '] _ _ _ _ (hblank rfl) (by decide) (.bareToken rfl)
                .nil)))))
  have hspelled := @Draft.WrittenAs.intro noteDraft ['\t'] [] _ _ [' '] (hblank rfl) (hblank rfl)
    hname hrest hspace
  have hwritten : noteDraft.WrittenAs noteText :=
    Eq.mp (congrArg noteDraft.WrittenAs (by decide +kernel)) hspelled
  refine ⟨hwritable, hwritten, (parse_written hwritable hwritten).trans (congrArg Except.ok ?_)⟩
  decide +kernel

end SlashLine.Command
