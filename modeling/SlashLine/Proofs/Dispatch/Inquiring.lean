import SlashLine.Proofs.Command.Fitting
import SlashLine.Proofs.Command.Requesting
import SlashLine.Proofs.Command.Writing
import SlashLine.Proofs.Dispatch.Answering

/-!
# Asking for a command

The help command is asked about a name, or the name is called: both look it up among the commands
there are at that moment. Whatever way the name is quoted, and whatever has happened to the router,
help is shown for a name that is registered, and for any other name both lines come to the same.

* `parse_listed`: what is read of a slash and tokens, however they are written.
* `Router.Routed.Explains`, `Router.Routed.Misses`: what is shown of a name.
* `route_inquiry`: the line that asks and the line that calls.
-/

namespace SlashLine

/-! ## The two lines -/

namespace Command

theorem parse_listed (catalog : Catalog) {written : List Char} {command : String}
    {rest : List String} (h : Listed written (command :: rest))
    (hneat : ∀ token ∈ command :: rest, Neat token) :
    parse catalog ("/" ++ String.ofList written) =
      .ok (.ofTokens catalog (Text.trim ("/" ++ String.ofList written)) command rest) := by
  have hslash : startsSlash (Text.trimList ("/" ++ String.ofList written).toList) = true := by
    rw [trimList_slash]
    rfl
  have hback : String.ofList ∘ String.toList = id := funext fun s => String.ofList_toList
  apply parse_of_tokens hslash
  rw [tokenize_trim_slash, tokenize_slash, String.toList_ofList, tokensFrom_listed h hneat,
    List.map_map, hback, List.map_id]

/-- A name that is asked for or called: there is no blank around it, it would not be taken for
flags, and no slash before it would be dropped. -/
structure Askable (name : String) : Prop where
  neat : Neat name
  dash : name.toList.head? ≠ some '-'
  slash : name.toList.head? ≠ some '/'

instance (name : String) : Decidable (Askable name) :=
  decidable_of_iff (Neat name ∧ name.toList.head? ≠ some '-' ∧ name.toList.head? ≠ some '/')
    ⟨fun h => ⟨h.1, h.2.1, h.2.2⟩, fun h => ⟨h.neat, h.dash, h.slash⟩⟩

variable {name : String} {written : List Char}

theorem listed_name (h : Spells written name.toList) : Listed written [name] := by
  have hlisted := Listed.cons h .nil
  rwa [List.append_nil] at hlisted

theorem listed_help (h : Spells written name.toList) :
    Listed ("help ".toList ++ written) ["help", name] := by
  have hspace : ∀ c ∈ [' '], Text.isBlank c := List.all_eq_true.mp rfl
  have hhelp : Bare "help" := by decide
  have hrest := Follows.cons hspace (List.cons_ne_nil _ _) h .nil
  have hchars : "help ".toList = "help".toList ++ [' '] := by decide
  rw [List.append_nil] at hrest
  rw [hchars, List.append_assoc]
  exact Listed.cons hhelp.spells hrest

end Command

namespace Dispatch

open Command Output Recovery

theorem dropSlashes_eq_self {name : String} (h : name.toList.head? ≠ some '/') :
    dropSlashes name = name := by
  rw [dropSlashes]
  cases hchars : name.toList with
  | nil => rw [List.dropWhile_nil, ← hchars, String.ofList_toList]
  | cons c cs =>
    have hc : (c == '/') = false := by
      rw [beq_eq_false_iff_ne]
      rintro rfl
      exact h (by rw [hchars, List.head?_cons])
    rw [List.dropWhile_cons, hc, if_neg Bool.false_ne_true, ← hchars, String.ofList_toList]

variable {router : Router} {context : Context} {past : List Act} {name : String}
  {written : List Char}

theorem Router.contains_catalog (router : Router) (name : String) :
    router.catalog.contains name = (router.commands.get? name).isSome := by
  rw [← Option.isSome_map (f := CommandEntry.schema), ← router.get?_catalog]
  rfl

/-- The line that asks for a name is read as a call of the help command with that argument. -/
theorem parse_help (hhelp : router.commands.get? "help" = some helpCommand)
    (hname : Askable name) (hwritten : Spells written name.toList) :
    ∃ raw, parse router.catalog ("/help " ++ String.ofList written) =
      .ok { command := "help", arguments := [name], raw } := by
  have hline : "/help " ++ String.ofList written =
      "/" ++ String.ofList ("help ".toList ++ written) := by
    rw [String.ofList_append, String.ofList_toList, ← String.append_assoc]
    rfl
  have hneat : ∀ token ∈ ["help", name], Neat token := by
    intro token htoken
    rcases List.mem_cons.mp htoken with rfl | hlast
    · decide
    · rw [List.mem_singleton.mp hlast]
      exact hname.neat
  have hnone : subcommandToken? router.catalog "help" [name] = none := by
    apply subcommandToken?_of_not_declares
    rintro token - ⟨schema, hschema, hmem⟩
    rw [router.get?_catalog, hhelp] at hschema
    cases hschema
    cases hmem
  have hsplit : splitTokens [name] = ([], [name]) :=
    splitTokens_argument (isFlagToken_argument (Or.inr hname.dash)) []
  refine ⟨Text.trim ("/" ++ String.ofList ("help ".toList ++ written)), ?_⟩
  rw [hline, parse_listed _ (listed_help hwritten) hneat, Parsed.ofTokens, hnone]
  simp only [Option.isSome_none, Bool.false_eq_true, if_false, parseFlags, hsplit]
  rfl

/-! ## What is shown -/

/-- A call that succeeds and shows the help of a command. -/
structure Router.Routed.Explains (routed : Router.Routed) (catalog : Catalog) (name : String)
    (entry : CommandEntry) : Prop where
  success : ∃ result, routed.outcome = .ok result ∧ result.success = true
  help : ∃ content, routed.router.stage.primary = some content ∧
    routed.panels.head? = some content.panel ∧
    content.message = catalog.commandHelp name none ∧
    content.message = entry.schema.helpText name none

/-- A call that fails because of a name, and shows one red panel with these steps to try next. -/
structure Router.Routed.Misses (routed : Router.Routed) (name : String) (steps : List String) :
    Prop where
  failed : ∃ result, routed.outcome = .ok result ∧ result.success = false ∧
    result.error = some ("Command '" ++ name ++ "' not found")
  panel : ∃ content, routed.router.stage.primary = some content ∧
    routed.panels = [content.panel] ∧ content.panel.colour = "red" ∧
    content.panel.title = "❌ Command Not Found" ∧ content.nextSteps = steps

theorem Router.Ends.misses {input : String} {content : Content} {engine : Engine}
    (h : router.Ends context input (.failed ("Command '" ++ name ++ "' not found")) content engine)
    (hcolour : content.panel.colour = "red")
    (htitle : content.panel.title = "❌ Command Not Found") :
    (router.route input context).Misses name content.nextSteps :=
  ⟨⟨_, h.outcome_eq, rfl, rfl⟩, content, h.primary_eq, h.alone rfl, hcolour, htitle, rfl⟩

/-- The handler of the help command, asked about one name. -/
theorem helpHandler_of_name {parsed : Parsed} (router : Router) (context : Context)
    (harguments : parsed.arguments = [name]) (hslash : name.toList.head? ≠ some '/') :
    helpHandler (router.invocation context parsed) router.startDesk =
      if (router.commands.get? name).isSome then
        (.ok (.succeeded "Help displayed"),
          router.startDesk.setPrimary helpSource (helpContent router.catalog name none))
      else
        (.ok (.failed (Fault.unknownMessage name)),
          router.startDesk.setPrimary helpSource (helpNotFound router.catalog name)) := by
  rw [helpHandler, Router.invocation, harguments]
  simp only [dropSlashes_eq_self hslash, router.contains_catalog, List.head?_nil]

/-- The line that asks for a name has nothing in it that could be refused. -/
theorem exists_admits_help (hhelp : router.commands.get? "help" = some helpCommand)
    (hname : Askable name) (hwritten : Spells written name.toList) :
    ∃ parsed, parsed.arguments = [name] ∧
      router.Admits ("/help " ++ String.ofList written) helpCommand parsed := by
  obtain ⟨raw, hparse⟩ := parse_help hhelp hname hwritten
  have hknown : router.catalog.get? "help" = some helpCommand.schema := by
    rw [router.get?_catalog, hhelp, Option.map_some]
  have hfits : Fits helpCommand.schema { command := "help", arguments := [name], raw } := by
    refine ⟨fun sub hsub => ?_, fun key value hget => ?_, fun spec hspec => ?_⟩
    · cases hsub
    · cases hget
    · cases hspec
  exact ⟨_, rfl, hparse, hhelp, isValid_iff.mpr ⟨_, hknown, hfits⟩⟩

theorem explains_of_registered {entry : CommandEntry} (hreliable : router.Reliable context)
    (hhelp : router.commands.get? "help" = some helpCommand) (hname : Askable name)
    (hwritten : Spells written name.toList) (hentry : router.commands.get? name = some entry) :
    (router.route ("/help " ++ String.ofList written) context).Explains router.catalog name
      entry := by
  obtain ⟨parsed, harguments, hadmits⟩ := exists_admits_help hhelp hname hwritten
  have hanswer := helpHandler_of_name router context harguments hname.slash
  rw [hentry, Option.isSome_some, if_pos rfl] at hanswer
  have hends : router.Ends context _ _ _ router.engine :=
    hreliable.ends_answered hadmits rfl hanswer
  refine ⟨⟨_, hends.outcome_eq, rfl⟩, _, hends.primary_eq, hends.head?_panels, rfl, ?_⟩
  rw [helpContent, Catalog.commandHelp, router.get?_catalog, hentry, Option.map_some]

theorem misses_asked (hreliable : router.Reliable context)
    (hhelp : router.commands.get? "help" = some helpCommand) (hname : Askable name)
    (hwritten : Spells written name.toList) (hnone : router.commands.get? name = none) :
    (router.route ("/help " ++ String.ofList written) context).Misses name
      (suggestionSteps (suggestionsFor router.catalog name)) := by
  obtain ⟨parsed, harguments, hadmits⟩ := exists_admits_help hhelp hname hwritten
  have hanswer := helpHandler_of_name router context harguments hname.slash
  rw [hnone, Option.isSome_none, if_neg Bool.false_ne_true] at hanswer
  have hends : router.Ends context _ _ _ router.engine :=
    hreliable.ends_answered hadmits rfl hanswer
  exact hends.misses rfl rfl

theorem misses_called (hreliable : router.Reliable context) (hneat : Neat name)
    (hwritten : Spells written name.toList) (hnone : router.commands.get? name = none) :
    (router.route ("/" ++ String.ofList written) context).Misses name
      (suggestionSteps (suggestionsFor router.catalog name)) := by
  have hparse := parse_listed router.catalog (listed_name hwritten) fun token htoken =>
    List.mem_singleton.mp htoken ▸ hneat
  exact (hreliable.ends_refused (.unknown hparse hnone)).misses rfl rfl

/-- Asking for a name, however it is quoted, succeeds if something is registered under it at that
moment, and then shows its help. For any other name, asking for it and calling it fail alike: the
name is not found, one red panel says so, and the steps to try next are the same. -/
theorem route_inquiry (hreached : router.Reached past)
    (hhelp : lastRegistered "help" past = some helpCommand) (hreliable : router.Reliable context)
    (hname : Askable name) (hwritten : Spells written name.toList) :
    ((∃ result, (router.route ("/help " ++ String.ofList written) context).outcome = .ok result ∧
          result.success = true) ↔
        ∃ entry, lastRegistered name past = some entry) ∧
      (∀ entry, lastRegistered name past = some entry →
        (router.route ("/help " ++ String.ofList written) context).Explains router.catalog name
          entry) ∧
      (lastRegistered name past = none →
        ∃ steps, (router.route ("/help " ++ String.ofList written) context).Misses name steps ∧
          (router.route ("/" ++ String.ofList written) context).Misses name steps) := by
  rw [← hreached.get?_commands] at hhelp
  rw [← hreached.get?_commands]
  cases hentry : router.commands.get? name with
  | some entry =>
    have hexplains := explains_of_registered hreliable hhelp hname hwritten hentry
    refine ⟨iff_of_true hexplains.success ⟨entry, rfl⟩, ?_, fun hnone => nomatch hnone⟩
    rintro _ ⟨⟩
    exact hexplains
  | none =>
    have hasked := misses_asked hreliable hhelp hname hwritten hentry
    have hcalled := misses_called hreliable hname.neat hwritten hentry
    refine ⟨iff_of_false ?_ ?_, ?_, fun _ => ⟨_, hasked, hcalled⟩⟩
    · obtain ⟨result, houtcome, hfailed, -⟩ := hasked.failed
      rintro ⟨result', houtcome', hsuccess⟩
      cases houtcome.symm.trans houtcome'
      rw [hfailed] at hsuccess
      cases hsuccess
    · rintro ⟨entry, ⟨⟩⟩
    · rintro entry ⟨⟩

/-- A name of a command with a part of it in quotes, and a name with a quote of its own. -/
theorem quoted_names_inquired :
    Router.fresh.withBuiltins.Reached [.register errorsCommand, .register helpCommand] ∧
      Router.fresh.withBuiltins.Reliable {} ∧ Askable "errors" ∧ Askable "it's" ∧
      Spells "err'or's".toList "errors".toList ∧ Spells "\"it's\"".toList "it's".toList ∧
      (Router.fresh.withBuiltins.route "/help err'or's" {}).Explains
        Router.fresh.withBuiltins.catalog "errors" errorsCommand ∧
      ∃ steps, (Router.fresh.withBuiltins.route "/help \"it's\"" {}).Misses "it's" steps ∧
        (Router.fresh.withBuiltins.route "/\"it's\"" {}).Misses "it's" steps := by
  have hreached : Router.fresh.withBuiltins.Reached
      [.register errorsCommand, .register helpCommand] := .next (.next Router.reached_fresh _) _
  have hreliable : Router.fresh.withBuiltins.Reliable {} := ⟨fun _ => rfl, fun _ _ _ => ⟨_, rfl⟩⟩
  have herrors : Askable "errors" := by decide +kernel
  have hits : Askable "it's" := by decide +kernel
  have hspellsErrors : Spells "err'or's".toList "errors".toList :=
    .bare (by decide) (by decide) (.bare (by decide) (by decide) (.bare (by decide) (by decide)
      (@Spells.quoted '\'' ['o', 'r'] _ _ (by decide) (by decide) (.bareToken rfl))))
  have hspellsIts : Spells "\"it's\"".toList "it's".toList :=
    @Spells.quotedToken '"' ['i', 't', '\'', 's'] (by decide) (by decide)
  obtain ⟨-, hexplains, -⟩ := route_inquiry hreached rfl hreliable herrors hspellsErrors
  obtain ⟨-, -, hmisses⟩ := route_inquiry hreached rfl hreliable hits hspellsIts
  exact ⟨hreached, hreliable, herrors, hits, hspellsErrors, hspellsIts,
    hexplains errorsCommand rfl, hmisses rfl⟩

end Dispatch

end SlashLine
