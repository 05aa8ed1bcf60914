import Mathlib.Algebra.Order.Floor.Semifield
import Mathlib.Data.Rat.Floor
import SlashLine.Proofs.Command.Reading
import SlashLine.Proofs.Dispatch.Answering
import SlashLine.Proofs.Fault.Tally

/-!
# Looking at the errors

The command for the errors takes a number and a flag that asks for clearing, and its handler relies
on the check for both: a number that is accepted is finite, so it has a whole part, and a flag that
is accepted as present was given without a value. Thus a line for it is refused, or it clears the
history and the sessions, or it lists the history without touching it.

* `ReportLimit`: how many reports a line asks for.
* `SeverityCounts`: how often each severity occurs, by name.
* `Router.Routed.Lists`: what is shown of a history.
* `route_errors`: what becomes of a line for the errors.
-/

namespace SlashLine

/-! ## The whole part of a number -/

namespace Binary64

/-- The number that a finite one stands for. -/
def value? (x : Binary64) : Option ℚ := x.units?.map fun units => units / one

/-- The whole part, or zero for a number below that, is the greatest natural number that is not
above it. -/
theorem exists_truncate {x : Binary64} (h : x.isFinite = true) :
    ∃ whole q, x.truncate = .ok whole ∧ x.value? = some q ∧ (max whole 0).toNat = ⌊q⌋₊ := by
  cases x with
  | nan => cases h
  | infinite negative => cases h
  | finite negative m =>
    refine ⟨_, _, rfl, rfl, ?_⟩
    cases negative with
    | false =>
      have hfloor : ⌊(m.units : ℚ) / (one : ℚ)⌋₊ = m.units / one := Nat.floor_div_eq_div _ _
      simp only [Bool.false_eq_true, if_false, Int.cast_natCast, hfloor]
      omega
    | true =>
      have hnonpos : ((-(m.units : ℤ) : ℤ) : ℚ) / (one : ℚ) ≤ 0 := by
        rw [Int.cast_neg, Int.cast_natCast]
        exact div_nonpos_of_nonpos_of_nonneg (neg_nonpos.mpr (Nat.cast_nonneg _))
          (Nat.cast_nonneg _)
      have hwhole : 0 ≤ ((m.units / one : ℕ) : ℤ) := Int.natCast_nonneg _
      simp only [if_true, Nat.floor_of_nonpos hnonpos]
      omega

end Binary64

/-! ## Severities -/

/-- How often each severity that occurs is found among reports, sorted by name. -/
structure SeverityCounts (counts : List (String × Nat)) (reports : List Report) : Prop where
  sorted : counts.Pairwise fun a b => a.1 < b.1
  mem_iff : ∀ name count, (name, count) ∈ counts ↔
    0 < count ∧ count = reports.countP (·.severity.name = name)

/-- Sorting by name leaves no two equal ones beside each other, as there are none. -/
theorem Slots.pairwise_sorted {υ : Type} (slots : Slots String υ) :
    (slots.entries.mergeSort fun a b => !(b.1 < a.1)).Pairwise fun a b => a.1 < b.1 := by
  have htrans : ∀ a b c : String × υ, (!decide (b.1 < a.1)) = true → (!decide (c.1 < b.1)) = true →
      (!decide (c.1 < a.1)) = true := by
    intro a b c hab hbc
    simp only [Bool.not_eq_true', decide_eq_false_iff_not, String.not_lt] at hab hbc ⊢
    exact String.le_trans hab hbc
  have htotal : ∀ a b : String × υ, (!decide (b.1 < a.1) || !decide (a.1 < b.1)) = true := by
    intro a b
    simp only [Bool.or_eq_true, Bool.not_eq_true', decide_eq_false_iff_not, String.not_lt]
    exact String.le_total a.1 b.1
  have hsorted := List.pairwise_mergeSort htrans htotal slots.entries
  have hnodup : ((slots.entries.mergeSort fun a b => !(b.1 < a.1)).map Prod.fst).Nodup :=
    ((List.mergeSort_perm _ _).map Prod.fst).nodup_iff.mpr slots.nodup
  refine hsorted.imp₂ (fun a b hle hne => ?_) (List.pairwise_map.mp hnodup)
  simp only [Bool.not_eq_true', decide_eq_false_iff_not, String.not_lt] at hle
  exact Std.lt_of_le_of_ne hle hne

theorem Tally.Counts.severityCounts {tally : Tally} {reports : List Report}
    (h : tally.Counts (·.severity.name) reports) :
    SeverityCounts (tally.entries.mergeSort fun a b => !(b.1 < a.1)) reports where
  sorted := Slots.pairwise_sorted tally
  mem_iff name count := by
    rw [(List.mergeSort_perm _ _).mem_iff, Slots.mem_entries_iff]
    have hcount := h.count name
    constructor
    · intro hget
      rw [hget, Option.getD_some] at hcount
      exact ⟨h.pos name count hget, hcount⟩
    · rintro ⟨hpos, rfl⟩
      cases hget : tally.get? name with
      | none =>
        rw [hget, Option.getD_none] at hcount
        omega
      | some count => rw [← hcount, hget, Option.getD_some]

namespace Dispatch

open Command Output Recovery

/-! ## What is asked for -/

/-- How many reports the flags of a line ask for: five if no limit is given, else the limit under
its name or else under its short name, without its fraction, and none if that is below zero. -/
inductive ReportLimit (flags : Slots String FlagValue) : Nat → Prop
  | usual (hnone : (flags.get? "limit").or (flags.get? "n") = none) : ReportLimit flags 5
  | given {text : String} {x : Binary64} {q : ℚ}
      (hgiven : (flags.get? "limit").or (flags.get? "n") = some (.text text))
      (hread : parseNumber text = some x) (hvalue : x.value? = some q) : ReportLimit flags ⌊q⌋₊

/-- The flag that asks for clearing is given, under either name. -/
def GivesClear (flags : Slots String FlagValue) : Prop :=
  ((flags.get? "clear").or (flags.get? "c")).isSome = true

instance (flags : Slots String FlagValue) : Decidable (GivesClear flags) :=
  inferInstanceAs (Decidable (_ = true))

/-- The declaration of the limit. -/
def limitFlag : FlagSpec where
  name := "limit"
  short := some "n"
  kind := .number
  default := .int 5
  description := "Number of recent errors to list"

/-- The declaration of the flag that asks for clearing. -/
def clearFlag : FlagSpec where
  name := "clear"
  short := some "c"
  kind := .boolean
  description := "Clear error history and retry counters"

theorem applicableFlags_errors (subcommand : Option String) :
    errorsCommand.schema.applicableFlags subcommand = [limitFlag, clearFlag] := by
  cases subcommand <;> rfl

theorem sole_errorsFlags : ∀ spec ∈ [limitFlag, clearFlag], spec.SoleIn [limitFlag, clearFlag] := by
  have hapart : ∀ {key}, limitFlag.matchesKey key = true → ¬ clearFlag.matchesKey key = true := by
    intro key hkey
    rcases FlagSpec.matchesKey_iff.mp hkey with rfl | hshort
    · decide
    · cases hshort
      decide
  intro spec hspec other hother key hkey hkey'
  simp only [List.mem_cons, List.not_mem_nil, or_false] at hspec hother
  rcases hspec with rfl | rfl <;> rcases hother with rfl | rfl
  · rfl
  · exact absurd hkey' (hapart hkey)
  · exact absurd hkey (hapart hkey')
  · rfl

/-! ## What is delivered -/

/-- Reading makes no numbers, and a flag without a value is present. -/
theorem value_of_parse {catalog : Catalog} {input : String} {parsed : Parsed}
    (h : parse catalog input = .ok parsed) {key : String} {value : FlagValue}
    (hget : parsed.flags.get? key = some value) :
    value = .present true ∨ ∃ text, value = .text text := by
  obtain ⟨-, command, rest, -, rfl⟩ := parse_eq_ok_iff.mp h
  have hmem : (key, value) ∈ (splitTokens (flagTokensOf catalog command rest)).1 :=
    Slots.mem_of_mem_ofList ((Slots.mem_entries_iff _ key value).mpr hget)
  exact (takenFrom_of_mem_splitTokens hmem).imp_right fun ⟨text, _, _, heq⟩ => ⟨text, heq⟩

section Delivering

variable {catalog : Catalog} {input : String} {parsed : Parsed} {short : String}

/-- A line for the errors that is read and accepted. -/
structure AcceptsErrors (catalog : Catalog) (input : String) (parsed : Parsed) : Prop where
  parses : parse catalog input = .ok parsed
  known : catalog.get? parsed.command = some errorsCommand.schema
  fits : Fits errorsCommand.schema parsed

theorem AcceptsErrors.served {spec : FlagSpec} (h : AcceptsErrors catalog input parsed)
    (hspec : spec ∈ [limitFlag, clearFlag]) :
    spec.Served parsed.flags ((coerceFlags catalog parsed).get? spec.name) := by
  have hsole := sole_errorsFlags spec hspec
  rw [← applicableFlags_errors parsed.subcommand] at hspec hsole
  rw [get?_coerceFlags h.known hspec hsole]
  exact h.fits.served hspec hsole

/-- What is given for a flag is of its kind, and it is found under the name of the flag. -/
theorem AcceptsErrors.coerced (h : AcceptsErrors catalog input parsed) (spec : FlagSpec)
    (hspec : spec ∈ [limitFlag, clearFlag]) (hshort : spec.short = some short) {value : FlagValue}
    (hgiven : (parsed.flags.get? spec.name).or (parsed.flags.get? short) = some value) :
    (value = .present true ∨ ∃ text, value = .text text) ∧
      ∃ plain, (coerceFlags catalog parsed).get? spec.name = some plain ∧
        spec.kind.Delivers value plain := by
  have hserved := h.served hspec
  cases hname : parsed.flags.get? spec.name with
  | some value' =>
    rw [hname, Option.some_or] at hgiven
    cases hgiven
    obtain ⟨plain, hplain, -, hdelivers⟩ := hserved.named value hname
    exact ⟨value_of_parse h.parses hname, plain, hplain, hdelivers⟩
  | none =>
    rw [hname, Option.none_or] at hgiven
    obtain ⟨plain, hplain, -, hdelivers⟩ := hserved.shortNamed hname short value hshort hgiven
    exact ⟨value_of_parse h.parses hgiven, plain, hplain, hdelivers⟩

theorem AcceptsErrors.defaulted (h : AcceptsErrors catalog input parsed) (spec : FlagSpec)
    (hspec : spec ∈ [limitFlag, clearFlag]) (hshort : spec.short = some short)
    (hnone : (parsed.flags.get? spec.name).or (parsed.flags.get? short) = none) :
    (coerceFlags catalog parsed).get? spec.name =
      if spec.default.isNull then none else some spec.default := by
  obtain ⟨hname, hshortName⟩ := Option.or_eq_none_iff.mp hnone
  refine (h.served hspec).absent hname fun other hother => ?_
  rw [hshort] at hother
  cases hother
  exact hshortName

theorem AcceptsErrors.asksToClear_iff (h : AcceptsErrors catalog input parsed) :
    asksToClear (coerceFlags catalog parsed) = true ↔ GivesClear parsed.flags := by
  have hclear : clearFlag ∈ [limitFlag, clearFlag] := List.mem_cons_of_mem _ List.mem_cons_self
  unfold asksToClear GivesClear
  cases hgiven : (parsed.flags.get? "clear").or (parsed.flags.get? "c") with
  | none =>
    have hnone : (coerceFlags catalog parsed).get? "clear" = none :=
      h.defaulted clearFlag hclear rfl hgiven
    rw [hnone]
    decide
  | some value =>
    obtain ⟨hread, plain, hplain, hdelivers⟩ := h.coerced clearFlag hclear rfl hgiven
    have hplain : (coerceFlags catalog parsed).get? "clear" = some plain := hplain
    -- The check leaves truth values only, and reading only that of a flag without a value.
    cases hdelivers with
    | boolean b =>
      rcases hread with htrue | ⟨text, htext⟩
      · cases htrue
        rw [hplain]
        exact iff_of_true rfl rfl
      · cases htext

/-- Every number that is accepted has a whole part. -/
theorem AcceptsErrors.exists_reportLimit (h : AcceptsErrors catalog input parsed) :
    ∃ limit whole, ReportLimit parsed.flags limit ∧
      reportLimit ((coerceFlags catalog parsed).get? "limit") = .ok whole ∧
      (max whole 0).toNat = limit := by
  have hlimit : limitFlag ∈ [limitFlag, clearFlag] := List.mem_cons_self
  cases hgiven : (parsed.flags.get? "limit").or (parsed.flags.get? "n") with
  | none =>
    have hfive : (coerceFlags catalog parsed).get? "limit" = some (.int 5) :=
      h.defaulted limitFlag hlimit rfl hgiven
    exact ⟨5, 5, .usual hgiven, by rw [hfive, reportLimit], rfl⟩
  | some value =>
    obtain ⟨hread, plain, hplain, hdelivers⟩ := h.coerced limitFlag hlimit rfl hgiven
    have hplain : (coerceFlags catalog parsed).get? "limit" = some plain := hplain
    cases hdelivers with
    | number _ => rcases hread with htrue | ⟨text, htext⟩ <;> contradiction
    | @numeral text x hnumber hfinite =>
      obtain ⟨whole, q, hwhole, hvalue, hfloor⟩ := Binary64.exists_truncate hfinite
      exact ⟨_, whole, .given hgiven hnumber hvalue, by rw [hplain, reportLimit, hwhole], hfloor⟩

end Delivering

/-! ## What becomes of a line -/

/-- The line of a severity. -/
def severityLine (count : String × Nat) : String :=
  "**" ++ count.1 ++ "**: " ++ toString count.2

/-- A call that leaves the history and the sessions as they were. -/
structure Router.Routed.Keeps (routed : Router.Routed) (router : Router) : Prop where
  log : routed.router.log = router.log
  sessions : routed.router.engine.sessions = router.engine.sessions

/-- A call after which there is no history and no session. -/
structure Router.Routed.Empties (routed : Router.Routed) : Prop where
  success : ∃ result, routed.outcome = .ok result ∧ result.success = true
  history : routed.router.log.entries = []
  sessions : routed.router.engine.sessions.attempts = Slots.empty
  panel : routed.panels.head? = some clearedContent.panel

/-- A call that shows a history: its data are the statistics, and the details of its first panel
are one line for each severity that occurs and one for each of the latest reports, up to a limit. -/
structure Router.Routed.Lists (routed : Router.Routed) (log : Log) (limit : Nat) : Prop where
  success : ∃ result, routed.outcome = .ok result ∧ result.success = true ∧
    result.data = some (.statistics log.statistics)
  statistics : log.statistics.Summarizes log.entries
  details : ∃ content counts reports,
    routed.router.stage.primary = some content ∧ routed.panels.head? = some content.panel ∧
    content.details = counts.map severityLine ++ reports.map reportLine ∧
    SeverityCounts counts log.entries ∧
    reports <+: log.entries ∧ reports.length = min limit log.size

variable {router : Router} {context : Context} {input : String} {parsed : Parsed}

theorem severityLines_eq (log : Log) :
    ∃ counts, SeverityCounts counts log.entries ∧
      severityLines log.statistics = counts.map severityLine :=
  ⟨_, log.statistics_summarizes.severities.severityCounts, rfl⟩

theorem errorsHandler_of_clear {values : Slots String Scalar} (call : Invocation) (desk : Desk)
    (hvalues : coerceFlags call.catalog call.parsed = values) (h : asksToClear values = true) :
    errorsHandler call desk = (.ok (.succeeded "Error history cleared"),
      { desk with engine := desk.engine.clear }.setPrimary errorsSource clearedContent) := by
  rw [errorsHandler, hvalues]
  simp only [h, if_true]

theorem errorsHandler_of_limit {values : Slots String Scalar} {whole : Int} (call : Invocation)
    (desk : Desk) (hvalues : coerceFlags call.catalog call.parsed = values)
    (h : asksToClear values = false) (hlimit : reportLimit (values.get? "limit") = .ok whole) :
    errorsHandler call desk =
      (.ok (.succeeded (toString desk.engine.log.size ++ " error(s) recorded")
          (some (.statistics desk.engine.log.statistics))),
        desk.setPrimary errorsSource (errorsContent desk.engine.log (max whole 0))) := by
  rw [errorsHandler, hvalues]
  simp only [h, Bool.false_eq_true, if_false, hlimit]

theorem Router.Ends.keeps {result : Result} {content : Content}
    (h : router.Ends context input result content router.engine) :
    (router.route input context).Keeps router :=
  ⟨by rw [Router.log, Router.log, h.ownLog_eq, h.engine_eq], by rw [h.engine_eq]⟩

theorem Router.Ends.lists {message : String} {log : Log} {whole : Int} {limit : Nat}
    (h : router.Ends context input (.succeeded message (some (.statistics log.statistics)))
      (errorsContent log (max whole 0)) router.engine)
    (hlimit : (max whole 0).toNat = limit) : (router.route input context).Lists log limit := by
  obtain ⟨counts, hcounts, hlines⟩ := severityLines_eq log
  have hlatest : log.latest (some (max whole 0)) = log.entries.take limit := by
    have hcast : max whole 0 = (limit : Int) := by omega
    rw [hcast]
    exact limited_natCast limit log.entries
  refine ⟨⟨_, h.outcome_eq, rfl, rfl⟩, log.statistics_summarizes, _, counts,
    log.entries.take limit, h.primary_eq, h.head?_panels, ?_, hcounts, List.take_prefix _ _,
    List.length_take⟩
  rw [errorsContent, hlines, hlatest]

/-- A line for the errors, on a router whose engine has the log that the faults of calls go to, ends
without a fault, not even one of the handler. If the line is refused, the history and the sessions
stay as they are; if clearing is asked for, both are empty; else they stay as they are, and the
history is shown up to the limit, however large or broken that number is. -/
theorem route_errors (hreliable : router.Reliable context) (hshared : router.ownLog = none)
    (hbuiltin : router.commands.get? "errors" = some errorsCommand)
    (hparse : parse router.catalog input = .ok parsed) (hcommand : parsed.command = "errors") :
    (∀ fault call, ¬ Escapes router context input fault call) ∧
      ((isValid router.catalog parsed = false ∧
          (∃ result, (router.route input context).outcome = .ok result ∧
            result.success = false) ∧
          (router.route input context).Keeps router) ∨
        (isValid router.catalog parsed = true ∧ GivesClear parsed.flags ∧
          (router.route input context).Empties) ∨
        (isValid router.catalog parsed = true ∧ ¬ GivesClear parsed.flags ∧
          (router.route input context).Keeps router ∧
          ∃ limit, ReportLimit parsed.flags limit ∧
            (router.route input context).Lists router.log limit)) := by
  rw [← hcommand] at hbuiltin
  cases hvalid : isValid router.catalog parsed with
  | false =>
    have hends := hreliable.ends_refused (.invalid hparse hbuiltin hvalid)
    exact ⟨hends.not_escapes, Or.inl ⟨rfl, ⟨_, hends.outcome_eq, rfl⟩, hends.keeps⟩⟩
  | true =>
    have hadmits : router.Admits input errorsCommand parsed := ⟨hparse, hbuiltin, hvalid⟩
    have hlog : router.log = router.engine.log := by rw [Router.log, hshared, Option.getD_none]
    have haccepts : AcceptsErrors router.catalog input parsed := by
      have hknown : router.catalog.get? parsed.command = some errorsCommand.schema := by
        rw [router.get?_catalog, hbuiltin, Option.map_some]
      obtain ⟨schema, hschema, hfits⟩ := isValid_iff.mp hvalid
      rw [hknown] at hschema
      cases hschema
      exact ⟨hparse, hknown, hfits⟩
    cases hclear : asksToClear (coerceFlags router.catalog parsed) with
    | true =>
      have hends := hreliable.ends_answered hadmits rfl (errorsHandler_of_clear
        (router.invocation context parsed) router.startDesk rfl hclear)
      refine ⟨hends.not_escapes, Or.inr (Or.inl ⟨rfl, haccepts.asksToClear_iff.mp hclear, ?_⟩)⟩
      refine ⟨⟨_, hends.outcome_eq, rfl⟩, ?_, by rw [hends.engine_eq]; rfl, hends.head?_panels⟩
      rw [Router.log, hends.ownLog_eq, hends.engine_eq, hshared]
      rfl
    | false =>
      obtain ⟨limit, whole, hasked, hwhole, hlimit⟩ := haccepts.exists_reportLimit
      have hends := hreliable.ends_answered hadmits rfl (errorsHandler_of_limit
        (router.invocation context parsed) router.startDesk rfl hclear hwhole)
      have hnot : ¬ GivesClear parsed.flags := by
        rw [← haccepts.asksToClear_iff, hclear]
        exact Bool.false_ne_true
      refine ⟨hends.not_escapes, Or.inr (Or.inr ⟨rfl, hnot, hends.keeps, limit, hasked, ?_⟩)⟩
      rw [hlog]
      exact hends.lists hlimit

/-- A router that three faults have been reported to. -/
def troubledRouter : Router :=
  { Router.fresh.withBuiltins with
    engine := { Router.fresh.engine with
      log := ["no such file", "access denied", "file not found"].foldl
        (fun log text => (log.record (.other "OSError" text) { operation := "startup" }).2)
        Router.fresh.engine.log } }

/-- A limit with a fraction, under its short name. -/
def latestErrors : Parsed where
  command := "errors"
  flags := ⟨[("n", .text "2.9")], by decide⟩
  raw := "/errors -n '2.9'"

theorem latest_errors_listed :
    troubledRouter.Reliable {} ∧ troubledRouter.ownLog = none ∧
      troubledRouter.commands.get? "errors" = some errorsCommand ∧
      parse troubledRouter.catalog latestErrors.raw = .ok latestErrors ∧
      latestErrors.command = "errors" ∧ troubledRouter.log.size = 3 ∧
      (troubledRouter.route latestErrors.raw {}).Keeps troubledRouter ∧
      ∃ limit, ReportLimit latestErrors.flags limit ∧
        (troubledRouter.route latestErrors.raw {}).Lists troubledRouter.log limit := by
  have hreliable : troubledRouter.Reliable {} := ⟨fun _ => rfl, fun _ _ _ => ⟨_, rfl⟩⟩
  have hbuiltin : troubledRouter.commands.get? "errors" = some errorsCommand := rfl
  have htokens : tokenize (Text.trim latestErrors.raw) = ["errors", "-n", "2.9"] := by
    decide +kernel
  have hparse : parse troubledRouter.catalog latestErrors.raw = .ok latestErrors :=
    (parse_of_tokens (by decide +kernel) htokens).trans (congrArg Except.ok (by decide +kernel))
  have hvalid : isValid troubledRouter.catalog latestErrors = true := by decide +kernel
  have hnot : ¬ GivesClear latestErrors.flags := by decide
  obtain ⟨-, ⟨hmisfit, -⟩ | ⟨-, hclear, -⟩ | ⟨-, -, hkeeps, hlists⟩⟩ :=
    route_errors hreliable rfl hbuiltin hparse rfl
  · rw [hvalid] at hmisfit
    cases hmisfit
  · exact absurd hclear hnot
  · exact ⟨hreliable, rfl, hbuiltin, hparse, rfl, by decide +kernel, hkeeps, hlists⟩

end Dispatch

end SlashLine
