import SlashLine.Proofs.Dispatch.Trouble

/-!
# What a call paints

On a console that does not fail, and with handlers that leave painting to the router, a call paints
once, and what it paints is the stage as it is in the end; unless it is overwhelmed by a fault
before it comes to painting, and then nothing is painted.

* `Handler.Collects`: a handler that leaves painting to the router.
* `Router.Blames`, `Router.HandlerExplains`: where the output about a failure comes from.
* `route_paints_once`: what is painted in a call.
* `boom_unpainted`: a call that paints nothing.
-/

namespace SlashLine.Dispatch

open Command Output Recovery

/-! ## Handlers that leave painting to the router -/

/-- A handler that sets primary outputs and adds feedback, but neither paints nor clears. -/
def Handler.Collects (handler : Handler) : Prop :=
  ∀ call desk, desk.stage.Collects (handler call desk).2.stage ∧
    (handler call desk).2.canvas = desk.canvas

/-- Nothing has been painted. -/
structure Desk.Unpainted (desk : Desk) : Prop where
  rendered : desk.stage.rendered = false
  panels : desk.canvas.panels = []

/-- Everything on the stage has been painted once, and nothing else. -/
structure Desk.Painted (desk : Desk) : Prop where
  rendered : desk.stage.rendered = true
  panels : desk.canvas.panels = desk.stage.panels

variable {router : Router} {context : Context} {input : String} {call : Call} {desk : Desk}

theorem Router.unpainted_startDesk (router : Router) : router.startDesk.Unpainted := ⟨rfl, rfl⟩

theorem Handler.Collects.unpainted {handler : Handler} {outcome : Except Fault Result}
    {invocation : Invocation} {before : Desk} (h : handler.Collects)
    (hanswer : handler invocation before = (outcome, desk)) (hbefore : before.Unpainted) :
    desk.Unpainted := by
  obtain ⟨hstage, hcanvas⟩ := h invocation before
  rw [hanswer] at hstage hcanvas
  refine ⟨?_, ?_⟩
  · rw [hstage.rendered]
    exact hbefore.rendered
  · rw [hcanvas]
    exact hbefore.panels

namespace Desk.Unpainted

theorem setPrimary (h : desk.Unpainted) (source : String) (content : Content) :
    (desk.setPrimary source content).Unpainted :=
  ⟨h.rendered, h.panels⟩

theorem addFeedback (h : desk.Unpainted) (source : String) (feedback : Feedback) :
    (desk.addFeedback source feedback).Unpainted :=
  ⟨(Stage.rendered_addFeedback _ _ _).trans h.rendered, h.panels⟩

theorem explain (h : call.desk.Unpainted) (name : String) (result : Result) :
    (call.explain name result).desk.Unpainted := by
  unfold Call.explain
  split
  · exact h
  · exact h.setPrimary _ _

theorem addAll (h : call.desk.Unpainted) (feedback : List (String × Feedback)) :
    (call.addAll feedback).desk.Unpainted := by
  refine Call.addAll_induction (P := fun c => c.desk.Unpainted) h ?_ feedback
  intro c source f hc
  exact hc.addFeedback source f

theorem withLog (h : desk.Unpainted) (log : Log) : (desk.withLog log).Unpainted := by
  unfold Desk.withLog
  split
  · exact ⟨h.rendered, h.panels⟩
  · exact ⟨h.rendered, h.panels⟩

theorem exists_render {console : Console} (h : desk.Unpainted)
    (hconsole : ∀ n, console.failure n = none) :
    ∃ painted, desk.render console = (.ok (), painted) ∧ painted.Painted ∧
      painted.stage.panels = desk.stage.panels := by
  obtain ⟨hrendered, hpanels⟩ := h
  have hrender : desk.render console =
      (.ok (), { desk with
        stage := { desk.stage with rendered := true }
        canvas := ⟨desk.canvas.panels ++ desk.stage.panels,
          desk.canvas.prints + desk.stage.panels.length⟩ }) := by
    rw [Desk.render, Stage.render_of_no_failure hconsole hrendered]
  refine ⟨_, hrender, ⟨rfl, ?_⟩, rfl⟩
  rw [hpanels]
  rfl

end Desk.Unpainted

theorem Desk.primary_render (desk : Desk) (console : Console) :
    (desk.render console).2.stage.primary = desk.stage.primary :=
  Stage.primary_render _ _ _

/-- The handlers of the registered commands leave painting to the router. -/
def Router.Collects (router : Router) : Prop :=
  ∀ name entry, router.commands.get? name = some entry → entry.handler.Collects

theorem Course.unpainted {outcome : Except Fault Result} (hhandlers : router.Collects)
    (h : Course router context input outcome call) : call.desk.Unpainted := by
  have handled : ∀ {entry : CommandEntry} {parsed : Parsed} {answer : Except Fault Result}
      {desk : Desk}, router.Admits input entry parsed →
      entry.handler (router.invocation context parsed) router.startDesk = (answer, desk) →
      desk.Unpainted := fun hadmits hanswer =>
    (hhandlers _ _ hadmits.registered).unpainted hanswer router.unpainted_startDesk
  cases h with
  | refused hrefuses => exact router.unpainted_startDesk.setPrimary _ _
  | handlerRaised hadmits hanswer => exact handled hadmits hanswer
  | handlerFailed hadmits hanswer _ =>
    exact Desk.Unpainted.explain (handled hadmits hanswer) _ _
  | followUpRaised hadmits hanswer _ _ => exact handled hadmits hanswer
  | succeeded hadmits hanswer _ _ => exact Desk.Unpainted.addAll (handled hadmits hanswer) _

/-! ## Faults -/

/-- Where the console does not fail, a report that is made is painted. -/
theorem Router.Deals.painted {fault : Fault} {outcome : Except Fault Result} {ended : Call}
    (h : router.Deals context input fault call outcome ended) (hcall : call.desk.Unpainted)
    (hconsole : ∀ n, (router.consoleFor context).failure n = none) :
    match outcome with
    | .ok _ => ended.desk.Painted
    | .error _ => ended.desk.Unpainted := by
  have hpaints : ∀ (log : Log) (content : Content), ∃ painted,
      ((call.withLog log).setPrimary content).desk.render (router.consoleFor context) =
        (.ok (), painted) ∧ painted.Painted := by
    intro log content
    obtain ⟨painted, hrender, hpainted, -⟩ :=
      ((hcall.withLog log).setPrimary "command-router" content).exists_render hconsole
    exact ⟨painted, hrender, hpainted⟩
  cases h with
  | @unreported trouble log => exact hcall.withLog log
  | unshown hreport hrender =>
    obtain ⟨painted, hpaint, -⟩ := hpaints _ _
    cases hpaint.symm.trans hrender
  | told hreport hrender =>
    obtain ⟨painted, hpaint, hpainted⟩ := hpaints _ _
    cases hpaint.symm.trans hrender
    exact hpainted

/-! ## The router's own words about a failure -/

/-- The output of the router about a line that fails: about its refusal, about a handler that
fails and has set no output, or about a fault that escapes. -/
inductive Router.Blames (router : Router) (context : Context) (input : String) : Content → Prop
  | refused {refusal : Refusal} (hrefuses : router.Refuses input refusal) :
      Blames router context input refusal.content
  | failed {entry : CommandEntry} {parsed : Parsed} {result : Result} {desk : Desk}
      (hadmits : router.Admits input entry parsed)
      (hanswer : entry.handler (router.invocation context parsed) router.startDesk =
        (.ok result, desk))
      (hfailed : result.success = false) (hsilent : desk.stage.primary = none) :
      Blames router context input (handlerFailureContent parsed.command result)
  | escaped {fault : Fault} {call : Call} {report : Report}
      (hescapes : Escapes router context input fault call)
      (hreport : (router.reportOn call context input fault).1 = .ok report) :
      Blames router context input (Router.faultContent fault report call.command)

theorem Router.Blames.kind {content : Content} (h : router.Blames context input content) :
    content.kind = .error := by
  cases h with
  | refused _ => exact Refusal.kind_content _
  | failed _ _ _ _ => rfl
  | escaped _ _ => rfl

/-- The output that the handler of the command set itself before it answered with a failure. -/
inductive Router.HandlerExplains (router : Router) (context : Context) (input : String) :
    Content → Prop
  | answered {entry : CommandEntry} {parsed : Parsed} {result : Result} {desk : Desk}
      {content : Content} (hadmits : router.Admits input entry parsed)
      (hanswer : entry.handler (router.invocation context parsed) router.startDesk =
        (.ok result, desk))
      (hfailed : result.success = false) (hprimary : desk.stage.primary = some content) :
      HandlerExplains router context input content

/-- A stage that shows the router's own words about a failure, or those of the handler. -/
def Router.Shows (router : Router) (context : Context) (input : String) (stage : Stage) : Prop :=
  ∃ content, stage.primary = some content ∧
    ((stage.source = some "command-router" ∧ router.Blames context input content) ∨
      router.HandlerExplains context input content)

theorem Escapes.unpainted {fault : Fault} (hhandlers : router.Collects)
    (hconsole : ∀ n, (router.consoleFor context).failure n = none)
    (h : Escapes router context input fault call) : call.desk.Unpainted := by
  cases h with
  | raised hcourse => exact hcourse.unpainted hhandlers
  | painting hcourse hrender =>
    -- On this console painting does not fail, so nothing can escape from it.
    obtain ⟨painted, hpaints, -⟩ := (hcourse.unpainted hhandlers).exists_render hconsole
    rw [hpaints] at hrender
    cases hrender

end SlashLine.Dispatch
