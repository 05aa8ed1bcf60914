import SlashLine.Proofs.Dispatch.Course
import SlashLine.Proofs.Dispatch.History
import SlashLine.Proofs.Output.Stage

/-!
# Faults that leave the router

A fault that escapes a call is classified, and the report about it is painted. Either may fail in
turn, which is noted by the text of that failure; and where classifying fails, the generic report
needs the text of the fault itself. Only a text that is asked for in vain on this way lets a fault
leave the router.

* `Router.Deals`: the ways in which a fault is dealt with.
* `Router.Overwhelms`: what leaves the router, by what fails on the way.
* `outcome_eq_error_iff`: nothing else leaves it.
-/

namespace SlashLine

namespace Dispatch

open Command Output Recovery

variable {router : Router} {context : Context} {input : String} {fault failure trouble : Fault}
  {call : Call} {report : Report}

/-! ## Dealing with a fault -/

theorem Desk.withLog_log (desk : Desk) : desk.withLog desk.log = desk := by
  obtain ⟨stage, engine, canvas, ownLog⟩ := desk
  cases ownLog <;> rfl

/-- The call after something was written in its log. -/
def Call.withLog (call : Call) (log : Log) : Call := { call with desk := call.desk.withLog log }

theorem Call.command_withLog (call : Call) (log : Log) :
    (call.withLog log).command = call.command := rfl

namespace Router

theorem noted_of_text {α : Type} {text : String} (h : failure.message = .ok text)
    (outcome : Except Fault α) : noted failure outcome = outcome := by
  rw [noted, h]

theorem noted_of_trouble {α : Type} (h : failure.message = .error trouble)
    (outcome : Except Fault α) : noted failure outcome = .error trouble := by
  rw [noted, h]

/-- The circumstances of a fault that escapes a call, as the classifier is told them. -/
def placeOf (call : Call) (context : Context) (input : String) : FaultContext :=
  call.desk.log.dated (faultContext call context input)

/-- What the classifier makes of a fault is logged and reported. -/
theorem reportOn_of_classified
    (h : call.desk.log.classifier fault (placeOf call context input) = .ok report) :
    router.reportOn call context input fault =
      (.ok report, call.withLog (call.desk.log.push report)) := by
  rw [reportOn, Log.record_of_ok h]
  rfl

/-- If the classifier fails, the generic rule makes the report, as far as both failures have a
text. -/
theorem reportOn_of_unclassified
    (h : call.desk.log.classifier fault (placeOf call context input) = .error failure) :
    router.reportOn call context input fault =
      (noted failure (genericRule.report router.home fault (placeOf call context input)),
        call) := by
  rw [reportOn, Log.record_of_error h]
  simp only [Desk.withLog_log]
  rfl

/-- To report a fault changes nothing of a call but its log. -/
theorem exists_reportOn (router : Router) (call : Call) (context : Context) (input : String)
    (fault : Fault) : ∃ outcome log,
      router.reportOn call context input fault = (outcome, call.withLog log) := by
  rw [reportOn]
  cases call.desk.log.record fault (faultContext call context input) with
  | mk outcome log =>
    cases outcome with
    | error failure => exact ⟨_, log, rfl⟩
    | ok report => exact ⟨_, log, rfl⟩

/-- How a fault is dealt with that has escaped a call: what comes of it, and the call in the end.
The fault is not reported; or its report is not shown, and nobody can tell why; or it is shown as
far as the console allows. On the way nothing happens to the call but that its log is written to. -/
inductive Deals (router : Router) (context : Context) (input : String) (fault : Fault)
    (call : Call) : Except Fault Result → Call → Prop
  | unreported {trouble : Fault} {log : Log}
      (hreport : router.reportOn call context input fault = (.error trouble, call.withLog log)) :
      Deals router context input fault call (.error trouble) (call.withLog log)
  | unshown {report : Report} {failure trouble : Fault} {log : Log} {desk : Desk}
      (hreport : router.reportOn call context input fault = (.ok report, call.withLog log))
      (hrender :
        ((call.withLog log).setPrimary (faultContent fault report call.command)).desk.render
          (router.consoleFor context) = (.error failure, desk))
      (hfailure : failure.message = .error trouble) :
      Deals router context input fault call (.error trouble) { call with desk }
  | told {report : Report} {painting : Except Fault Unit} {log : Log} {desk : Desk}
      (hreport : router.reportOn call context input fault = (.ok report, call.withLog log))
      (hrender :
        ((call.withLog log).setPrimary (faultContent fault report call.command)).desk.render
          (router.consoleFor context) = (painting, desk))
      (hnoted : ∀ failure, painting = .error failure → ∃ text, failure.message = .ok text) :
      Deals router context input fault call (.ok (faultResult report))
        (Call.enter { call with desk } .failed)

/-- Every fault is dealt with in one of these ways. -/
theorem deals_recoverFrom (router : Router) (context : Context) (input : String) (fault : Fault)
    (call : Call) :
    router.Deals context input fault call
      (router.recoverFrom (router.consoleFor context) call context input fault).1
      (router.recoverFrom (router.consoleFor context) call context input fault).2 := by
  obtain ⟨outcome, log, hreport⟩ := router.exists_reportOn call context input fault
  rw [recoverFrom, hreport]
  cases outcome with
  | error trouble => exact .unreported hreport
  | ok report =>
    dsimp only
    rw [Call.command_withLog, safeRender]
    cases hrender :
      ((call.withLog log).setPrimary (faultContent fault report call.command)).desk.render
        (router.consoleFor context) with
    | mk painting desk =>
      cases painting with
      | ok _ => exact .told hreport hrender fun _ => nofun
      | error failure =>
        cases hfailure : failure.message with
        | error trouble =>
          simp only [noted_of_trouble hfailure]
          exact .unshown hreport hrender hfailure
        | ok text =>
          have hnoted : ∀ failure', Except.error failure = (.error failure' : Except Fault Unit) →
              ∃ text, failure'.message = .ok text := by
            rintro _ ⟨⟩
            exact ⟨text, hfailure⟩
          simp only [noted_of_text hfailure]
          exact .told hreport hrender hnoted

end Router

/-! ## What leaves the router -/

/-- A fault that leaves the router while another one is dealt with, which has escaped the call: the
classifier fails, and that failure has no text; or it fails, and the fault itself has no text; or
painting the report fails, and that failure has no text. -/
inductive Router.Overwhelms (router : Router) (context : Context) (input : String) : Fault → Prop
  | classifying {fault failure trouble : Fault} {call : Call}
      (hescapes : Escapes router context input fault call)
      (hclassifier : call.desk.log.classifier fault (placeOf call context input) = .error failure)
      (hfailure : failure.message = .error trouble) :
      Overwhelms router context input trouble
  | reporting {fault failure trouble : Fault} {call : Call} {text : String}
      (hescapes : Escapes router context input fault call)
      (hclassifier : call.desk.log.classifier fault (placeOf call context input) = .error failure)
      (hfailure : failure.message = .ok text) (hfault : fault.message = .error trouble) :
      Overwhelms router context input trouble
  | painting {fault failure trouble : Fault} {call : Call} {report : Report} {log : Log}
      {desk : Desk} (hescapes : Escapes router context input fault call)
      (hreport : router.reportOn call context input fault = (.ok report, call.withLog log))
      (hrender :
        ((call.withLog log).setPrimary (faultContent fault report call.command)).desk.render
          (router.consoleFor context) = (.error failure, desk))
      (hfailure : failure.message = .error trouble) :
      Overwhelms router context input trouble

namespace Escapes

theorem exists_deals (h : Escapes router context input fault call) :
    ∃ outcome ended, router.Deals context input fault call outcome ended ∧
      router.route input context = router.close outcome ended :=
  ⟨_, _, router.deals_recoverFrom context input fault call, h.route_eq⟩

end Escapes

/-- What overwhelms a call is what leaves the router. -/
theorem Router.Overwhelms.outcome_eq (h : router.Overwhelms context input trouble) :
    (router.route input context).outcome = .error trouble := by
  cases h with
  | classifying hescapes hclassifier hfailure =>
    rw [hescapes.route_eq, Router.close, Router.recoverFrom,
      Router.reportOn_of_unclassified hclassifier, Router.noted_of_trouble hfailure]
  | reporting hescapes hclassifier hfailure hfault =>
    rw [hescapes.route_eq, Router.close, Router.recoverFrom,
      Router.reportOn_of_unclassified hclassifier, Router.noted_of_text hfailure,
      Rule.report_eq_error_iff.mpr hfault]
  | painting hescapes hreport hrender hfailure =>
    rw [hescapes.route_eq, Router.close, Router.recoverFrom, hreport]
    dsimp only
    rw [Call.command_withLog, Router.safeRender, hrender]
    simp only [Router.noted_of_trouble hfailure]

/-- What painting fails with is what one of the print calls of the console fails with. -/
theorem Desk.failure_of_render {desk painted : Desk} {console : Console}
    (h : desk.render console = (.error failure, painted)) :
    ∃ n, console.failure n = some failure := by
  have hrender : (desk.stage.render console desk.canvas).1 = .error failure := by
    have hfst := congrArg Prod.fst h
    exact hfst
  exact Stage.failure_of_render hrender

/-- Where everything that fails has a text, no call is overwhelmed: neither by the fault that
escapes it, nor by the classifier, nor by the console. -/
theorem not_overwhelms_of_texts
    (hfaults : ∀ fault call, Escapes router context input fault call →
      ∃ text, fault.message = .ok text)
    (hclassifier : ∀ fault call failure, Escapes router context input fault call →
      call.desk.log.classifier fault (Router.placeOf call context input) = .error failure →
      ∃ text, failure.message = .ok text)
    (hconsole : ∀ n failure, (router.consoleFor context).failure n = some failure →
      ∃ text, failure.message = .ok text) :
    ¬ router.Overwhelms context input trouble := by
  intro h
  cases h with
  | classifying hescapes hfails hfailure =>
    obtain ⟨text, htext⟩ := hclassifier _ _ _ hescapes hfails
    cases htext.symm.trans hfailure
  | reporting hescapes hfails hfailure hfault =>
    obtain ⟨text, htext⟩ := hfaults _ _ hescapes
    cases htext.symm.trans hfault
  | painting hescapes hreport hrender hfailure =>
    obtain ⟨n, hn⟩ := Desk.failure_of_render hrender
    obtain ⟨text, htext⟩ := hconsole n _ hn
    cases htext.symm.trans hfailure

/-- The classifier of the library fails on the faults that have no text. On a console whose failures
can be told, these are the faults that overwhelm the calls they escape from. -/
theorem overwhelms_iff_of_classify {home : Option String}
    (hescapes : Escapes router context input fault call)
    (hclassifier : call.desk.log.classifier = classify home)
    (hconsole : ∀ n failure, (router.consoleFor context).failure n = some failure →
      ∃ text, failure.message = .ok text) :
    (∃ trouble, router.Overwhelms context input trouble) ↔
      ∃ trouble, fault.message = .error trouble := by
  constructor
  · rintro ⟨trouble, hoverwhelms⟩
    cases hfault : fault.message with
    | error e => exact ⟨e, rfl⟩
    | ok text =>
      refine absurd hoverwhelms (not_overwhelms_of_texts ?_ ?_ hconsole)
      · intro fault' call' hescapes'
        obtain ⟨rfl, rfl⟩ := hescapes.unique hescapes'
        exact ⟨text, hfault⟩
      · intro fault' call' failure hescapes' hfails
        obtain ⟨rfl, rfl⟩ := hescapes.unique hescapes'
        rw [hclassifier, classify_eq_error_iff] at hfails
        cases hfault.symm.trans hfails
  · rintro ⟨trouble, hfault⟩
    have hfails : call.desk.log.classifier fault (Router.placeOf call context input) =
        .error trouble := by
      rw [hclassifier]
      exact classify_eq_error_iff.mpr hfault
    cases htrouble : trouble.message with
    | error e => exact ⟨e, .classifying hescapes hfails htrouble⟩
    | ok text => exact ⟨trouble, .reporting hescapes hfails htrouble hfault⟩

/-! ## A command without words -/

/-- A failure whose text is made from a number that is missing. -/
def wordlessFault : Fault :=
  .unprintable "CalledProcessError"
    (.other "TypeError" "%d format: a real number is required, not NoneType")

/-- A command that fails, and nobody can tell why. -/
def wordlessCommand : CommandEntry where
  schema := { name := "boom" }
  handler _ desk := (.error wordlessFault, desk)

/-- A router with the built-in commands and one that cannot tell why it fails. -/
def wordlessRouter : Router := Router.fresh.withBuiltins.register wordlessCommand

end Dispatch

end SlashLine
