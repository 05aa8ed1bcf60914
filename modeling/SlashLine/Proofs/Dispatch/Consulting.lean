import SlashLine.Proofs.Dispatch.Congruence
import SlashLine.Proofs.Dispatch.History

/-!
# Whom a call asks

The handler of a command is asked once, after the line has been read and checked, and nobody else
is asked before it has succeeded. What is asked is noted in the trace of a call. That the trace
leaves nothing out is shown by an exchange: with others in the place of those who answer, the call
ends alike as long as the questions in its trace get the same answers.

* `Course.trace_route`: the trace of a call is the one of its course.
* `Router.AsksOnly`: the questions of a call, and what it depends on.
* `Router.Reached.route_asks`: the questions of every call.
-/

namespace SlashLine.Dispatch

open Command Output Recovery

/-! ## The trace of a call -/

@[simp] theorem Call.trace_enter (call : Call) (phase : Phase) :
    (call.enter phase).trace = call.trace := by
  unfold enter
  split <;> rfl

@[simp] theorem Call.trace_explain (call : Call) (name : String) (result : Result) :
    (call.explain name result).trace = call.trace := by
  unfold explain
  split <;> rfl

@[simp] theorem Call.trace_addAll (call : Call) (feedback : List (String × Feedback)) :
    (call.addAll feedback).trace = call.trace := by
  refine addAll_induction (P := fun c => c.trace = call.trace) rfl ?_ feedback
  intro c source f hc
  exact hc

variable {router : Router} {context : Context} {input : String}

/-- To deal with a fault nobody is asked but the classifier and the console. -/
theorem Router.Deals.trace {fault : Fault} {call ended : Call} {outcome : Except Fault Result}
    (h : router.Deals context input fault call outcome ended) : ended.trace = call.trace := by
  cases h with
  | unreported => rfl
  | unshown => rfl
  | told => exact Call.trace_enter _ _

theorem Escapes.trace_route {fault : Fault} {call : Call}
    (h : Escapes router context input fault call) :
    (router.route input context).trace = call.trace := by
  obtain ⟨outcome, ended, hdeals, hroute⟩ := h.exists_deals
  rw [hroute]
  exact hdeals.trace

theorem Completes.trace_route {result : Result} {call : Call}
    (h : Completes router context input result call) :
    (router.route input context).trace = call.trace := by
  rw [h.route_eq]
  exact Call.trace_enter _ _

/-- Whom a call has asked in its course is all that it asks. -/
theorem Course.trace_route {outcome : Except Fault Result} {call : Call}
    (h : Course router context input outcome call) :
    (router.route input context).trace = call.trace := by
  cases outcome with
  | error fault => exact Escapes.trace_route (.raised h)
  | ok result =>
    rcases call.desk.render_cases (router.consoleFor context) with
      ⟨fault, desk, hrender⟩ | ⟨desk, hrender⟩
    · have hescapes := Escapes.painting h hrender
      exact hescapes.trace_route
    · have hcompletes := Completes.painted h hrender
      exact hcompletes.trace_route

/-! ## Others who answer -/

/-- Those whom calls may ask: the handlers, the bridge and the source of tips. -/
structure Staff where
  handlers : CommandEntry → Handler
  bridge : Bridge
  tips : TipSource

namespace Staff

/-- A command with another handler. -/
def entry (staff : Staff) (entry : CommandEntry) : CommandEntry :=
  { entry with handler := staff.handlers entry }

end Staff

namespace Router

/-- The router with others in the place of its handlers, its bridge and its source of tips. -/
def staffed (router : Router) (staff : Staff) : Router :=
  { router with
    commands := router.commands.map staff.entry
    bridge := router.bridge.map fun _ => staff.bridge
    tips := staff.tips }

/-- The questions of a call. The call ends alike with any others who give the answers that count. -/
structure AsksOnly (router : Router) (input : String) (context : Context)
    (questions : List Consultation) (answers : Staff → Prop) : Prop where
  trace : (router.route input context).trace = questions
  agrees (staff : Staff) (hanswers : answers staff) :
    (router.route input context).Agrees ((router.staffed staff).route input context)

variable {staff : Staff} {entry : CommandEntry} {parsed : Parsed} {refusal : Refusal}
  {result : Result}

@[simp] theorem catalog_staffed (router : Router) (staff : Staff) :
    (router.staffed staff).catalog = router.catalog := by
  unfold catalog staffed
  rw [Slots.map_map]
  rfl

theorem get?_staffed (router : Router) (staff : Staff) (name : String) :
    (router.staffed staff).commands.get? name = (router.commands.get? name).map staff.entry :=
  Slots.get?_map _ _ _

@[simp] theorem invocation_staffed (router : Router) (staff : Staff) (context : Context)
    (parsed : Parsed) :
    (router.staffed staff).invocation context parsed = router.invocation context parsed := by
  unfold invocation
  rw [catalog_staffed]
  rfl

theorem Admits.staffed (h : router.Admits input entry parsed) (staff : Staff) :
    (router.staffed staff).Admits input (staff.entry entry) parsed := by
  obtain ⟨hparses, hregistered, hvalid⟩ := h
  refine ⟨?_, ?_, ?_⟩
  · rw [catalog_staffed, hparses]
  · rw [get?_staffed, hregistered]
    rfl
  · rw [catalog_staffed, hvalid]

theorem Refuses.staffed (h : router.Refuses input refusal) (staff : Staff) :
    (router.staffed staff).Refuses input refusal := by
  have hcatalog := router.catalog_staffed staff
  cases h with
  | malformed hparse =>
    exact .malformed (by rw [hcatalog, hparse])
  | unknown hparse hnone =>
    rw [← hcatalog] at hparse ⊢
    refine .unknown hparse ?_
    rw [get?_staffed, hnone]
    rfl
  | @invalid parsed entry hparse hsome hmisfit =>
    rw [← hcatalog] at hparse hmisfit ⊢
    have hsome' : (router.staffed staff).commands.get? parsed.command =
        some (staff.entry entry) := by
      rw [get?_staffed, hsome]
      rfl
    exact .invalid hparse hsome' hmisfit

/-- About a line that is refused nobody is asked. -/
theorem asksOnly_of_refuses (h : router.Refuses input refusal) (context : Context) :
    router.AsksOnly input context [] fun _ => True := by
  refine ⟨Course.trace_route (.refused h), fun staff _ => ?_⟩
  exact route_agrees (.refused h) (.refused (h.staffed staff)) ⟨rfl, rfl⟩ rfl rfl rfl

/-- If the handler fails, no one else is asked. -/
theorem asksOnly_of_handlerRaised {fault : Fault} {desk : Desk}
    (hadmits : router.Admits input entry parsed)
    (hanswer : entry.handler (router.invocation context parsed) router.startDesk =
      (.error fault, desk)) :
    router.AsksOnly input context [.handler entry parsed] fun staff =>
      staff.handlers entry (router.invocation context parsed) router.startDesk =
        (.error fault, desk) := by
  have hcourse := Course.handlerRaised hadmits hanswer
  refine ⟨hcourse.trace_route, fun staff hstaff => ?_⟩
  rw [← router.invocation_staffed staff] at hstaff
  exact route_agrees hcourse (.handlerRaised (hadmits.staffed staff) hstaff)
    (alike_handledCall _ _ _ _ _ _) rfl rfl rfl

/-- Nor is anyone if it answers with a failure. -/
theorem asksOnly_of_handlerFailed {desk : Desk} (hadmits : router.Admits input entry parsed)
    (hanswer : entry.handler (router.invocation context parsed) router.startDesk =
      (.ok result, desk))
    (hfailed : result.success = false) :
    router.AsksOnly input context [.handler entry parsed] fun staff =>
      staff.handlers entry (router.invocation context parsed) router.startDesk =
        (.ok result, desk) := by
  have hcourse := Course.handlerFailed hadmits hanswer hfailed
  refine ⟨hcourse.trace_route.trans (Call.trace_explain _ _ _), fun staff hstaff => ?_⟩
  rw [← router.invocation_staffed staff] at hstaff
  exact route_agrees hcourse (.handlerFailed (hadmits.staffed staff) hstaff hfailed)
    ((alike_handledCall _ _ _ _ _ _).explain _ _) rfl rfl rfl

/-- After a success the bridge or the tips are asked, and then nobody. -/
theorem asksOnly_of_followsUp {desk : Desk} {c : Consultation}
    {outcome : Except Fault (List (String × Feedback))} {answers : Staff → Prop}
    (hadmits : router.Admits input entry parsed)
    (hanswer : entry.handler (router.invocation context parsed) router.startDesk =
      (.ok result, desk))
    (hsuccess : result.success = true)
    (hfollow : router.FollowsUp context parsed result c outcome)
    (hothers : ∀ staff, answers staff →
      (router.staffed staff).FollowsUp context parsed result c outcome) :
    router.AsksOnly input context [.handler entry parsed, c] fun staff =>
      staff.handlers entry (router.invocation context parsed) router.startDesk =
        (.ok result, desk) ∧ answers staff := by
  cases outcome with
  | error fault =>
    have hcourse := Course.followUpRaised hadmits hanswer hsuccess hfollow
    refine ⟨hcourse.trace_route, fun staff ⟨hstaff, hthen⟩ => ?_⟩
    rw [← router.invocation_staffed staff] at hstaff
    exact route_agrees hcourse
      (.followUpRaised (hadmits.staffed staff) hstaff hsuccess (hothers staff hthen))
      ((alike_handledCall _ _ _ _ _ _).consult c c) rfl rfl rfl
  | ok feedback =>
    have hcourse := Course.succeeded hadmits hanswer hsuccess hfollow
    refine ⟨hcourse.trace_route.trans (Call.trace_addAll _ _), fun staff ⟨hstaff, hthen⟩ => ?_⟩
    rw [← router.invocation_staffed staff] at hstaff
    exact route_agrees hcourse
      (.succeeded (hadmits.staffed staff) hstaff hsuccess (hothers staff hthen))
      (((alike_handledCall _ _ _ _ _ _).consult c c).addAll feedback) rfl rfl rfl

theorem FollowsUp.bridge_staffed {bridge : Bridge} (hbridge : router.bridge = some bridge)
    (hwants : result.wantsConversation = true)
    (hstaff : staff.bridge result parsed.command context = bridge result parsed.command context) :
    (router.staffed staff).FollowsUp context parsed result
      (.bridge parsed.command context.sessionId)
      ((bridge result parsed.command context).map transitionFeedback) := by
  have hbridge' : (router.staffed staff).bridge = some staff.bridge := by
    simp only [Router.staffed, hbridge, Option.map_some]
  rw [← hstaff]
  exact .bridge hbridge' hwants

theorem FollowsUp.tips_staffed (hnot : router.bridge = none ∨ result.wantsConversation = false)
    (hstaff : staff.tips parsed.command (templateOf parsed) parsed.flags =
      router.tips parsed.command (templateOf parsed) parsed.flags) :
    (router.staffed staff).FollowsUp context parsed result
      (.tips parsed.command (templateOf parsed))
      ((router.tips parsed.command (templateOf parsed) parsed.flags).map
        (tipFeedback router.maxTips)) := by
  have hnot' : (router.staffed staff).bridge = none ∨ result.wantsConversation = false := by
    rcases hnot with hnone | hwants
    · exact Or.inl (by simp only [Router.staffed, hnone, Option.map_none])
    · exact Or.inr hwants
  rw [← hstaff]
  exact .tips hnot'

/-- A refused line asks nobody. Any other line asks the handler that was registered last under the
name in it, once and with the parsed command; after a success it asks the bridge or the source of
tips, the bridge exactly if there is one and a conversation is wanted; and nobody else. -/
theorem Reached.route_asks {past : List Act} (h : router.Reached past) (input : String)
    (context : Context) :
    ((∃ refusal, router.Refuses input refusal) ∧
      router.AsksOnly input context [] fun _ => True) ∨
    ∃ entry parsed outcome desk,
      parse router.catalog input = .ok parsed ∧
      lastRegistered parsed.command past = some entry ∧
      isValid router.catalog parsed = true ∧
      entry.handler (router.invocation context parsed) router.startDesk = (outcome, desk) ∧
      ((∀ result, outcome = .ok result → result.success = false) →
        router.AsksOnly input context [.handler entry parsed] fun staff =>
          staff.handlers entry (router.invocation context parsed) router.startDesk =
            (outcome, desk)) ∧
      (∀ result, outcome = .ok result → result.success = true →
        (∀ bridge, router.bridge = some bridge → result.wantsConversation = true →
          router.AsksOnly input context
            [.handler entry parsed, .bridge parsed.command context.sessionId] fun staff =>
              staff.handlers entry (router.invocation context parsed) router.startDesk =
                (outcome, desk) ∧
              staff.bridge result parsed.command context =
                bridge result parsed.command context) ∧
        (router.bridge = none ∨ result.wantsConversation = false →
          router.AsksOnly input context
            [.handler entry parsed, .tips parsed.command (templateOf parsed)] fun staff =>
              staff.handlers entry (router.invocation context parsed) router.startDesk =
                (outcome, desk) ∧
              staff.tips parsed.command (templateOf parsed) parsed.flags =
                router.tips parsed.command (templateOf parsed) parsed.flags)) := by
  rcases admits_or_refuses router input with ⟨entry, parsed, hadmits⟩ | ⟨refusal, hrefuses⟩
  · right
    obtain ⟨outcome, desk, hanswer⟩ :
        ∃ outcome desk, entry.handler (router.invocation context parsed) router.startDesk =
          (outcome, desk) := ⟨_, _, rfl⟩
    have hlast : lastRegistered parsed.command past = some entry := by
      rw [← h.get?_commands]
      exact hadmits.registered
    refine ⟨entry, parsed, outcome, desk, hadmits.parses, hlast, hadmits.valid, hanswer, ?_, ?_⟩
    · intro hfails
      cases outcome with
      | error fault => exact asksOnly_of_handlerRaised hadmits hanswer
      | ok result => exact asksOnly_of_handlerFailed hadmits hanswer (hfails result rfl)
    · rintro result rfl hsuccess
      refine ⟨fun bridge hbridge hwants => ?_, fun hnot => ?_⟩
      · exact asksOnly_of_followsUp hadmits hanswer hsuccess (.bridge hbridge hwants)
          fun staff hstaff => .bridge_staffed hbridge hwants hstaff
      · exact asksOnly_of_followsUp hadmits hanswer hsuccess (.tips hnot)
          fun staff hstaff => .tips_staffed hnot hstaff
  · exact Or.inl ⟨⟨refusal, hrefuses⟩, asksOnly_of_refuses hrefuses context⟩

theorem Reached.asks_help :
    ((fresh.act (.register helpCommand)).route "/help" {}).trace =
      [.handler helpCommand ⟨"help", none, [], Slots.empty, "/help"⟩, .tips "help" none] := by
  have hadmits : (fresh.act (.register helpCommand)).Admits "/help" helpCommand
      ⟨"help", none, [], Slots.empty, "/help"⟩ := ⟨rfl, rfl, rfl⟩
  rcases (Reached.next reached_fresh (.register helpCommand)).route_asks "/help" {} with
    ⟨⟨refusal, hrefuses⟩, -⟩ |
    ⟨entry, parsed, outcome, desk, hparse, hlast, -, hanswer, -, hthen⟩
  · exact absurd hadmits hrefuses.not_admits
  · cases hadmits.parses.symm.trans hparse
    cases hlast
    cases hanswer
    obtain ⟨-, htips⟩ := hthen (.succeeded "Help displayed") rfl rfl
    exact (htips (Or.inl rfl)).trace

end Router

end SlashLine.Dispatch
