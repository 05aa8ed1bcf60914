import SlashLine.Dispatch.Router

/-!
# The course of a call

A line is refused before any handler is asked, or the handler of its command is asked. What it
answers decides how the call goes on, up to the one point where everything is painted. `Course`
lists the ways this may go; every later statement about a call is a case analysis over them.

* `Router.Refuses`, `Router.Admits`: the gate before the handlers.
* `exists_course`, `Course.dispatch_eq`: every call follows a course, and then it is settled.
* `escapes_or_completes`: a fault escapes a call, or its outcome is painted.
-/

namespace SlashLine.Dispatch

open Command Output Recovery

/-! ## The gate -/

/-- Why a line reaches no handler. -/
inductive Refusal where
  | malformed (e : ParseError)
  | unknown (name : String) (suggestions : List String)
  | invalid (name : String) (misfits : List Violation)

namespace Refusal

/-- The command that was named, if the line could be read. -/
def command? : Refusal → Option String
  | malformed _ => none
  | unknown name _ => some name
  | invalid name _ => some name

/-- The output about a refusal. -/
def content : Refusal → Content
  | malformed e => syntaxContent e
  | unknown name suggestions => notFoundContent name suggestions
  | invalid name misfits => invalidContent name (misfits.map Violation.message)

/-- The error of the result of a refused line. -/
def message : Refusal → String
  | malformed e => e.message
  | unknown name _ => Fault.unknownMessage name
  | invalid _ misfits => Fault.invalidMessage (misfits.map Violation.message)

theorem kind_content (refusal : Refusal) : refusal.content.kind = .error := by
  cases refusal <;> rfl

end Refusal

namespace Router

/-- The line can be read, its command is registered, and it fits the declaration. -/
structure Admits (router : Router) (input : String) (entry : CommandEntry) (parsed : Parsed) :
    Prop where
  parses : parse router.catalog input = .ok parsed
  registered : router.commands.get? parsed.command = some entry
  valid : isValid router.catalog parsed = true

/-- The line cannot be read, its command is not registered, or it does not fit the declaration. -/
inductive Refuses (router : Router) (input : String) : Refusal → Prop
  | malformed {e : ParseError} (hparse : parse router.catalog input = .error e) :
      Refuses router input (.malformed e)
  | unknown {parsed : Parsed} (hparse : parse router.catalog input = .ok parsed)
      (hnone : router.commands.get? parsed.command = none) :
      Refuses router input
        (.unknown parsed.command (suggestionsFor router.catalog parsed.command))
  | invalid {parsed : Parsed} {entry : CommandEntry}
      (hparse : parse router.catalog input = .ok parsed)
      (hsome : router.commands.get? parsed.command = some entry)
      (hmisfit : isValid router.catalog parsed = false) :
      Refuses router input (.invalid parsed.command (violations router.catalog parsed))

variable {router : Router} {input : String} {entry entry' : CommandEntry}
  {parsed parsed' : Parsed} {refusal : Refusal}

/-- A line is admitted for one command only. -/
theorem Admits.unique (h : router.Admits input entry parsed)
    (h' : router.Admits input entry' parsed') : entry = entry' ∧ parsed = parsed' := by
  have hp : parsed = parsed' := by
    have hok := h.parses.symm.trans h'.parses
    cases hok
    rfl
  subst hp
  have hsome := h.registered.symm.trans h'.registered
  cases hsome
  exact ⟨rfl, rfl⟩

theorem Refuses.unique {refusal' : Refusal} (h : router.Refuses input refusal)
    (h' : router.Refuses input refusal') : refusal = refusal' := by
  cases h with
  | malformed hparse =>
    cases h' with
    | malformed hparse' =>
      rw [hparse] at hparse'
      cases hparse'
      rfl
    | unknown hparse' _ => rw [hparse] at hparse'; cases hparse'
    | invalid hparse' _ _ => rw [hparse] at hparse'; cases hparse'
  | unknown hparse hnone =>
    cases h' with
    | malformed hparse' => rw [hparse] at hparse'; cases hparse'
    | unknown hparse' _ =>
      rw [hparse] at hparse'
      cases hparse'
      rfl
    | invalid hparse' hsome _ =>
      rw [hparse] at hparse'
      cases hparse'
      rw [hnone] at hsome
      cases hsome
  | invalid hparse hsome _ =>
    cases h' with
    | malformed hparse' => rw [hparse] at hparse'; cases hparse'
    | unknown hparse' hnone =>
      rw [hparse] at hparse'
      cases hparse'
      rw [hsome] at hnone
      cases hnone
    | invalid hparse' _ _ =>
      rw [hparse] at hparse'
      cases hparse'
      rfl

theorem Refuses.not_admits (h : router.Refuses input refusal) :
    ¬ router.Admits input entry parsed := by
  rintro ⟨hparses, hregistered, hvalid⟩
  cases h with
  | malformed hparse => rw [hparse] at hparses; cases hparses
  | unknown hparse hnone =>
    rw [hparse] at hparses
    cases hparses
    rw [hnone] at hregistered
    cases hregistered
  | invalid hparse hsome hmisfit =>
    rw [hparse] at hparses
    cases hparses
    rw [hmisfit] at hvalid
    cases hvalid

/-- Every line is admitted or refused. -/
theorem admits_or_refuses (router : Router) (input : String) :
    (∃ entry parsed, router.Admits input entry parsed) ∨
      ∃ refusal, router.Refuses input refusal := by
  cases hparse : parse router.catalog input with
  | error e => exact Or.inr ⟨_, .malformed hparse⟩
  | ok parsed =>
    cases hget : router.commands.get? parsed.command with
    | none => exact Or.inr ⟨_, .unknown hparse hget⟩
    | some entry =>
      cases hvalid : isValid router.catalog parsed with
      | false => exact Or.inr ⟨_, .invalid hparse hget hvalid⟩
      | true => exact Or.inl ⟨entry, parsed, hparse, hget, hvalid⟩

end Router

/-! ## After a success -/

/-- The phase that a call with a result ends in. -/
def Result.phase (result : Result) : Phase := if result.success then .success else .failed

/-- The feedback with the best tips, if there are any. -/
def tipFeedback (limit : Int) (tips : List Tip) : List (String × Feedback) :=
  match Tip.prioritize tips (some limit) with
  | [] => []
  | best => [("command-tips", ⟨.tip, Tip.format best, 1⟩)]

/-- Adds feedback, one piece after the other. -/
def Call.addAll (call : Call) (feedback : List (String × Feedback)) : Call :=
  feedback.foldl (fun c (source, f) => c.addFeedback source f) call

/-- What adding one piece of feedback keeps is kept by adding several. -/
theorem Call.addAll_induction {P : Call → Prop} {call : Call} (hcall : P call)
    (hstep : ∀ c source feedback, P c → P (Call.addFeedback c source feedback))
    (feedback : List (String × Feedback)) : P (call.addAll feedback) := by
  unfold addAll
  induction feedback generalizing call with
  | nil => exact hcall
  | cons p rest ih =>
    rw [List.foldl_cons]
    exact ih (hstep call p.1 p.2 hcall)

@[simp] theorem Call.desk_enter (call : Call) (phase : Phase) :
    (call.enter phase).desk = call.desk := by
  unfold enter
  split <;> rfl

/-- The call after what was asked has answered. -/
def Call.followed (call : Call) (c : Consultation) :
    Except Fault (List (String × Feedback)) → Except Fault Unit × Call
  | .error fault => (.error fault, call.consult c)
  | .ok feedback => (.ok (), (call.consult c).addAll feedback)

/-- What is asked after a success, and the feedback that comes of it: the bridge if there is one
and the result asks for a conversation, the source of tips otherwise. -/
inductive Router.FollowsUp (router : Router) (context : Context) (parsed : Parsed)
    (result : Result) : Consultation → Except Fault (List (String × Feedback)) → Prop
  | bridge {bridge : Bridge} (hbridge : router.bridge = some bridge)
      (hwants : result.wantsConversation = true) :
      FollowsUp router context parsed result (.bridge parsed.command context.sessionId)
        ((bridge result parsed.command context).map transitionFeedback)
  | tips (hnot : router.bridge = none ∨ result.wantsConversation = false) :
      FollowsUp router context parsed result
        (.tips parsed.command (Router.templateOf parsed))
        ((router.tips parsed.command (Router.templateOf parsed) parsed.flags).map
          (tipFeedback router.maxTips))

namespace Router

theorem exists_followsUp (router : Router) (context : Context) (parsed : Parsed)
    (result : Result) : ∃ c outcome, router.FollowsUp context parsed result c outcome := by
  cases hbridge : router.bridge with
  | none => exact ⟨_, _, .tips (Or.inl hbridge)⟩
  | some bridge =>
    cases hwants : result.wantsConversation with
    | false => exact ⟨_, _, .tips (Or.inr hwants)⟩
    | true => exact ⟨_, _, .bridge hbridge hwants⟩

theorem startConversation_eq (bridge : Bridge) (call : Call) (context : Context)
    (command : String) (result : Result) :
    startConversation bridge call context command result =
      call.followed (.bridge command context.sessionId)
        ((bridge result command context).map transitionFeedback) := by
  unfold startConversation
  cases bridge result command context <;> rfl

theorem addTips_eq (router : Router) (call : Call) (parsed : Parsed) :
    router.addTips call parsed =
      call.followed (.tips parsed.command (templateOf parsed))
        ((router.tips parsed.command (templateOf parsed) parsed.flags).map
          (tipFeedback router.maxTips)) := by
  unfold addTips
  dsimp only
  cases router.tips parsed.command (templateOf parsed) parsed.flags with
  | error fault => rfl
  | ok tips =>
    simp only [Except.map, tipFeedback]
    cases Tip.prioritize tips (some router.maxTips) <;> rfl

/-- What is done after a success is decided by what the one who is asked answers. -/
theorem postProcess_eq {router : Router} {context : Context} {parsed : Parsed} {result : Result}
    {c : Consultation} {outcome : Except Fault (List (String × Feedback))}
    (h : router.FollowsUp context parsed result c outcome) (call : Call) :
    router.postProcess call context parsed result = call.followed c outcome := by
  unfold postProcess
  cases h with
  | bridge hbridge hwants =>
    simp only [hbridge, hwants, if_true]
    exact startConversation_eq _ call context parsed.command result
  | tips hnot =>
    rcases hnot with hnone | hwants
    · simp only [hnone]
      exact addTips_eq router call parsed
    · cases router.bridge with
      | none => exact addTips_eq router call parsed
      | some bridge =>
        simp only [hwants, Bool.false_eq_true, if_false]
        exact addTips_eq router call parsed

end Router

/-! ## The courses -/

/-- The call of a command, as it is handed to the handler. -/
def Router.invocation (router : Router) (context : Context) (parsed : Parsed) : Invocation :=
  ⟨router.catalog, parsed, context, router.consoleFor context⟩

/-- The call once the handler of its command has left the desk. -/
def Router.handledCall (router : Router) (entry : CommandEntry) (parsed : Parsed) (desk : Desk) :
    Call :=
  { desk, lastPhase := router.lastPhase, command := some parsed.command
    trace := [.handler entry parsed] }

/-- The call of a refused line. -/
def Router.refusedCall (router : Router) (refusal : Refusal) : Call :=
  { router.startCall with command := refusal.command? }.setPrimary refusal.content

/-- The call with an output about a failure of the handler, unless it set one itself. -/
def Call.explain (call : Call) (name : String) (result : Result) : Call :=
  if call.desk.stage.hasPrimary then call
  else call.setPrimary (handlerFailureContent name result)

/-- How a call goes until it is painted: a fault that is raised, or a result, and the call. -/
inductive Course (router : Router) (context : Context) (input : String) :
    Except Fault Result → Call → Prop
  | refused {refusal : Refusal} (hrefuses : router.Refuses input refusal) :
      Course router context input (.ok (.failed refusal.message))
        (router.refusedCall refusal)
  | handlerRaised {entry : CommandEntry} {parsed : Parsed} {fault : Fault} {desk : Desk}
      (hadmits : router.Admits input entry parsed)
      (hanswer : entry.handler (router.invocation context parsed) router.startDesk =
        (.error fault, desk)) :
      Course router context input (.error fault) (router.handledCall entry parsed desk)
  | handlerFailed {entry : CommandEntry} {parsed : Parsed} {result : Result} {desk : Desk}
      (hadmits : router.Admits input entry parsed)
      (hanswer : entry.handler (router.invocation context parsed) router.startDesk =
        (.ok result, desk))
      (hfailed : result.success = false) :
      Course router context input (.ok result)
        ((router.handledCall entry parsed desk).explain parsed.command result)
  | followUpRaised {entry : CommandEntry} {parsed : Parsed} {result : Result} {desk : Desk}
      {c : Consultation} {fault : Fault} (hadmits : router.Admits input entry parsed)
      (hanswer : entry.handler (router.invocation context parsed) router.startDesk =
        (.ok result, desk))
      (hsuccess : result.success = true)
      (hfollow : router.FollowsUp context parsed result c (.error fault)) :
      Course router context input (.error fault)
        ((router.handledCall entry parsed desk).consult c)
  | succeeded {entry : CommandEntry} {parsed : Parsed} {result : Result} {desk : Desk}
      {c : Consultation} {feedback : List (String × Feedback)}
      (hadmits : router.Admits input entry parsed)
      (hanswer : entry.handler (router.invocation context parsed) router.startDesk =
        (.ok result, desk))
      (hsuccess : result.success = true)
      (hfollow : router.FollowsUp context parsed result c (.ok feedback)) :
      Course router context input (.ok result)
        (((router.handledCall entry parsed desk).consult c).addAll feedback)

/-- Paints what a call has come to, unless a fault was raised. -/
def Call.settle (call : Call) (console : Console) :
    Except Fault Result → Except Fault Result × Call
  | .error fault => (.error fault, call)
  | .ok result => call.finish console result.phase result

variable {router : Router} {context : Context} {input : String}

/-- Every call takes a course. -/
theorem exists_course (router : Router) (context : Context) (input : String) :
    ∃ outcome call, Course router context input outcome call := by
  rcases Router.admits_or_refuses router input with ⟨entry, parsed, hadmits⟩ | ⟨refusal, hrefuses⟩
  · cases hanswer : entry.handler (router.invocation context parsed) router.startDesk with
    | mk outcome desk =>
      cases outcome with
      | error fault => exact ⟨_, _, .handlerRaised hadmits hanswer⟩
      | ok result =>
        cases hsuccess : result.success with
        | false => exact ⟨_, _, .handlerFailed hadmits hanswer hsuccess⟩
        | true =>
          obtain ⟨c, outcome, hfollow⟩ := router.exists_followsUp context parsed result
          cases outcome with
          | error fault => exact ⟨_, _, .followUpRaised hadmits hanswer hsuccess hfollow⟩
          | ok feedback => exact ⟨_, _, .succeeded hadmits hanswer hsuccess hfollow⟩
  · exact ⟨_, _, .refused hrefuses⟩

/-! ## Agreement with the dispatch -/

namespace Router

theorem dispatch_of_refuses {refusal : Refusal} (h : router.Refuses input refusal)
    (console : Console) (context : Context) :
    router.dispatch console router.startCall context input =
      (router.refusedCall refusal).finish console .failed (.failed refusal.message) := by
  unfold dispatch
  cases h with
  | malformed hparse =>
    simp only [hparse]
    rfl
  | @unknown parsed hparse hnone =>
    have hcontains : router.commands.contains parsed.command = false := by
      simp only [Slots.contains, hnone, Option.isSome_none]
    simp only [hparse, hcontains, Bool.not_false, if_true]
    rfl
  | @invalid parsed entry hparse hsome hmisfit =>
    have hcontains : router.commands.contains parsed.command = true := by
      simp only [Slots.contains, hsome, Option.isSome_some]
    simp only [hparse, hcontains, Bool.not_true, Bool.false_eq_true, if_false]
    unfold isValid at hmisfit
    cases hmisfits : violations router.catalog parsed with
    | nil =>
      rw [hmisfits] at hmisfit
      cases hmisfit
    | cons m ms => rfl

theorem dispatch_of_admits {entry : CommandEntry} {parsed : Parsed}
    (h : router.Admits input entry parsed) (console : Console) (context : Context) :
    router.dispatch console router.startCall context input =
      router.execute console { router.startCall with command := some parsed.command } context
        entry parsed := by
  have hcontains : router.commands.contains parsed.command = true := by
    simp only [Slots.contains, h.registered, Option.isSome_some]
  have hnone : violations router.catalog parsed = [] := List.isEmpty_iff.mp h.valid
  unfold dispatch
  simp only [h.parses, hcontains, Bool.not_true, Bool.false_eq_true, if_false, hnone, h.registered]
  rfl

theorem execute_eq (router : Router) (context : Context) (entry : CommandEntry)
    (parsed : Parsed) :
    router.execute (router.consoleFor context)
        { router.startCall with command := some parsed.command } context entry parsed =
      match entry.handler (router.invocation context parsed) router.startDesk with
      | (.error fault, desk) => (.error fault, router.handledCall entry parsed desk)
      | (.ok result, desk) =>
        if result.success then
          match router.postProcess (router.handledCall entry parsed desk) context parsed result with
          | (.error fault, call) => (.error fault, call)
          | (.ok (), call) => call.finish (router.consoleFor context) .success result
        else
          ((router.handledCall entry parsed desk).explain parsed.command result).finish
            (router.consoleFor context) .failed result := rfl

end Router

/-- The pipeline does what the course of the call says, and then paints. -/
theorem Course.dispatch_eq {outcome : Except Fault Result} {call : Call}
    (h : Course router context input outcome call) :
    router.dispatch (router.consoleFor context) router.startCall context input =
      call.settle (router.consoleFor context) outcome := by
  cases h with
  | refused hrefuses => exact Router.dispatch_of_refuses hrefuses _ _
  | handlerRaised hadmits hanswer =>
    rw [Router.dispatch_of_admits hadmits, Router.execute_eq, hanswer]
    rfl
  | handlerFailed hadmits hanswer hfailed =>
    rw [Router.dispatch_of_admits hadmits, Router.execute_eq, hanswer]
    simp only [hfailed, Bool.false_eq_true, if_false, Call.settle, Result.phase]
  | followUpRaised hadmits hanswer hsuccess hfollow =>
    rw [Router.dispatch_of_admits hadmits, Router.execute_eq, hanswer]
    simp only [hsuccess, if_true, Router.postProcess_eq hfollow]
    rfl
  | succeeded hadmits hanswer hsuccess hfollow =>
    rw [Router.dispatch_of_admits hadmits, Router.execute_eq, hanswer]
    simp only [hsuccess, if_true, Router.postProcess_eq hfollow, Call.followed, Call.settle,
      Result.phase]

/-! ## The end of a call -/

/-- A fault that escapes: it is raised on the way, or painting the outcome fails. The call is as it
stands then. -/
inductive Escapes (router : Router) (context : Context) (input : String) : Fault → Call → Prop
  | raised {fault : Fault} {call : Call}
      (hcourse : Course router context input (.error fault) call) :
      Escapes router context input fault call
  | painting {result : Result} {call : Call} {fault : Fault} {desk : Desk}
      (hcourse : Course router context input (.ok result) call)
      (hrender : call.desk.render (router.consoleFor context) = (.error fault, desk)) :
      Escapes router context input fault { call with desk }

/-- The outcome of a call is painted. The call is as it stands then. -/
inductive Completes (router : Router) (context : Context) (input : String) : Result → Call → Prop
  | painted {result : Result} {call : Call} {desk : Desk}
      (hcourse : Course router context input (.ok result) call)
      (hrender : call.desk.render (router.consoleFor context) = (.ok (), desk)) :
      Completes router context input result { call with desk }

theorem Desk.render_cases (desk : Desk) (console : Console) :
    (∃ fault desk', desk.render console = (.error fault, desk')) ∨
      ∃ desk', desk.render console = (.ok (), desk') := by
  cases hrender : desk.render console with
  | mk outcome desk' =>
    cases outcome with
    | error fault => exact Or.inl ⟨fault, desk', rfl⟩
    | ok _ => exact Or.inr ⟨desk', rfl⟩

/-- Either a fault escapes from a call, or it completes. -/
theorem escapes_or_completes (router : Router) (context : Context) (input : String) :
    (∃ fault call, Escapes router context input fault call) ∨
      ∃ result call, Completes router context input result call := by
  obtain ⟨outcome, call, hcourse⟩ := exists_course router context input
  cases outcome with
  | error fault => exact Or.inl ⟨fault, call, .raised hcourse⟩
  | ok result =>
    rcases call.desk.render_cases (router.consoleFor context) with
      ⟨fault, desk, hrender⟩ | ⟨desk, hrender⟩
    · exact Or.inl ⟨fault, _, .painting hcourse hrender⟩
    · exact Or.inr ⟨result, _, .painted hcourse hrender⟩

theorem Escapes.dispatch_eq {fault : Fault} {call : Call}
    (h : Escapes router context input fault call) :
    router.dispatch (router.consoleFor context) router.startCall context input =
      (.error fault, call) := by
  cases h with
  | raised hcourse => rw [hcourse.dispatch_eq, Call.settle]
  | painting hcourse hrender => rw [hcourse.dispatch_eq, Call.settle, Call.finish, hrender]

theorem Completes.dispatch_eq {result : Result} {call : Call}
    (h : Completes router context input result call) :
    router.dispatch (router.consoleFor context) router.startCall context input =
      (.ok result, call.enter result.phase) := by
  cases h with
  | painted hcourse hrender => rw [hcourse.dispatch_eq, Call.settle, Call.finish, hrender]

/-- One fault at most escapes from a call. -/
theorem Escapes.unique {fault fault' : Fault} {call call' : Call}
    (h : Escapes router context input fault call)
    (h' : Escapes router context input fault' call') : fault = fault' ∧ call = call' := by
  have heq := h.dispatch_eq.symm.trans h'.dispatch_eq
  obtain ⟨hfault, hcall⟩ := Prod.mk.inj heq
  exact ⟨Except.error.inj hfault, hcall⟩

/-- From a call that completes nothing escapes. -/
theorem Completes.not_escapes {result : Result} {fault : Fault} {call call' : Call}
    (h : Completes router context input result call) :
    ¬ Escapes router context input fault call' := by
  intro h'
  have heq := h.dispatch_eq.symm.trans h'.dispatch_eq
  cases congrArg Prod.fst heq

/-- What becomes of a line from which a fault escapes is what dealing with the fault makes of it. -/
theorem Escapes.route_eq {fault : Fault} {call : Call}
    (h : Escapes router context input fault call) :
    router.route input context =
      router.close (router.recoverFrom (router.consoleFor context) call context input fault).1
        (router.recoverFrom (router.consoleFor context) call context input fault).2 := by
  simp only [Router.route, h.dispatch_eq]

/-- What becomes of a line that completes is its result, in the phase of that. -/
theorem Completes.route_eq {result : Result} {call : Call}
    (h : Completes router context input result call) :
    router.route input context = router.close (.ok result) (call.enter result.phase) := by
  simp only [Router.route, h.dispatch_eq]

theorem Completes.outcome_route {result : Result} {call : Call}
    (h : Completes router context input result call) :
    (router.route input context).outcome = .ok result := by
  rw [h.route_eq]
  rfl

end SlashLine.Dispatch
