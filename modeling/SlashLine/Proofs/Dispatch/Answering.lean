import SlashLine.Proofs.Dispatch.Painting
import SlashLine.Proofs.Dispatch.Reporting

/-!
# Calls without faults

Where neither the console nor the source of the tips fails, no fault escapes from a line that is
refused, nor from a handler that answers with an output of its own and asks for no conversation.
Such a call ends with that output painted first, and with the engine as the handler left it.

* `Router.Reliable`: what serves a call does not fail.
* `Router.Ends`: what a call comes to that nothing escapes from.
* `Router.Reliable.ends_refused`, `Router.Reliable.ends_answered`: the two kinds of lines.
-/

namespace SlashLine.Dispatch

open Command Output Recovery

/-- Neither the console of a call fails nor the source of the tips. -/
structure Router.Reliable (router : Router) (context : Context) : Prop where
  console : ∀ n, (router.consoleFor context).failure n = none
  tips : ∀ command template flags, ∃ tips, router.tips command template flags = .ok tips

/-- A call that nothing escapes from: its result, its primary output, which is painted first and in
a failure alone, and the engine after it. -/
structure Router.Ends (router : Router) (context : Context) (input : String) (result : Result)
    (content : Content) (engine : Engine) : Prop where
  not_escapes : ∀ fault call, ¬ Escapes router context input fault call
  outcome_eq : (router.route input context).outcome = .ok result
  engine_eq : (router.route input context).router.engine = engine
  ownLog_eq : (router.route input context).router.ownLog = router.ownLog
  primary_eq : (router.route input context).router.stage.primary = some content
  panels : ∃ feedback : List Feedback,
    (router.route input context).panels = content.panel :: feedback.map Feedback.panel
  alone : result.success = false → (router.route input context).panels = [content.panel]

variable {router : Router} {context : Context} {input : String} {entry : CommandEntry}
  {parsed : Parsed} {result : Result} {content : Content} {engine : Engine} {source : String}

theorem Router.Ends.head?_panels (h : router.Ends context input result content engine) :
    (router.route input context).panels.head? = some content.panel := by
  obtain ⟨feedback, hpanels⟩ := h.panels
  rw [hpanels, List.head?_cons]

/-! ## The end of a call -/

/-- What is on the desk of a course that ends with a result is what the call comes to. -/
theorem Course.ends {call : Call} (h : Course router context input (.ok result) call)
    (hconsole : ∀ n, (router.consoleFor context).failure n = none)
    (hdesk : call.desk.Unpainted) (hbooks : call.desk.books = (engine, router.ownLog))
    (hprimary : call.desk.stage.primary = some content)
    (hfeedback : result.success = false → call.desk.stage.feedback = Slots.empty) :
    router.Ends context input result content engine := by
  obtain ⟨painted, hrender, hpainted, hpanels⟩ := hdesk.exists_render hconsole
  have hcompletes := Completes.painted h hrender
  have hkept : painted.books = (engine, router.ownLog) :=
    (Desk.books_of_render hrender).trans hbooks
  obtain ⟨hengine, hownLog⟩ := Prod.mk.inj hkept
  have hshown : (router.route input context).panels =
      content.panel :: call.desk.stage.orderedFeedback.map Feedback.panel := by
    rw [hcompletes.route_eq]
    simp only [Router.close, Call.desk_enter]
    rw [hpainted.panels, hpanels, Stage.panels, hprimary]
    rfl
  have hkeptPrimary : painted.stage.primary = some content := by
    rw [← hprimary, ← call.desk.primary_render (router.consoleFor context), hrender]
  refine ⟨fun _ _ => hcompletes.not_escapes, hcompletes.outcome_route, ?_, ?_, ?_, ⟨_, hshown⟩, ?_⟩
  · rw [hcompletes.route_eq]
    simp only [Router.close, Call.desk_enter]
    exact hengine
  · rw [hcompletes.route_eq]
    simp only [Router.close, Call.desk_enter]
    exact hownLog
  · rw [hcompletes.route_eq]
    simp only [Router.close, Call.desk_enter]
    exact hkeptPrimary
  · intro hfailed
    rw [hshown, Stage.orderedFeedback_of_empty (hfeedback hfailed)]
    rfl

@[simp] theorem Call.primary_addAll (call : Call) (feedback : List (String × Feedback)) :
    (call.addAll feedback).desk.stage.primary = call.desk.stage.primary := by
  refine addAll_induction (P := fun c => c.desk.stage.primary = call.desk.stage.primary) rfl ?_
    feedback
  intro c source f hc
  exact (Stage.primary_addFeedback _ _ _).trans hc

namespace Router.Reliable

theorem ends_refused {refusal : Refusal} (h : router.Reliable context)
    (hrefuses : router.Refuses input refusal) :
    router.Ends context input (.failed refusal.message) refusal.content router.engine :=
  (Course.refused hrefuses).ends h.console (router.unpainted_startDesk.setPrimary _ _) rfl rfl
    fun _ => rfl

/-- The tips that follow a success leave the output of the handler in its place. -/
theorem ends_answered (h : router.Reliable context) (hadmits : router.Admits input entry parsed)
    (hwants : result.wantsConversation = false)
    (hanswer : entry.handler (router.invocation context parsed) router.startDesk =
      (.ok result, { router.startDesk with engine }.setPrimary source content)) :
    router.Ends context input result content engine := by
  have hstart : Desk.Unpainted { router.startDesk with engine } := ⟨rfl, rfl⟩
  have hunpainted := hstart.setPrimary source content
  cases hsuccess : result.success with
  | true =>
    obtain ⟨tips, htips⟩ := h.tips parsed.command (templateOf parsed) parsed.flags
    have hfollow : router.FollowsUp context parsed result _ _ := .tips (Or.inr hwants)
    rw [htips] at hfollow
    refine (Course.succeeded hadmits hanswer hsuccess hfollow).ends h.console
      (Desk.Unpainted.addAll hunpainted _) (Call.books_addAll _ _) (Call.primary_addAll _ _) ?_
    intro hfailed
    rw [hsuccess] at hfailed
    cases hfailed
  | false =>
    exact (Course.handlerFailed hadmits hanswer hsuccess).ends h.console
      (Desk.Unpainted.explain hunpainted _ _) rfl rfl fun _ => rfl

end Router.Reliable

end SlashLine.Dispatch
