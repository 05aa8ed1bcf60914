import SlashLine.Proofs.Dispatch.Phase

/-!
# What a call depends on

Two calls that have come to the same outcome with the same desk and the same command end alike,
whatever else the routers differ in: their trace, the phase they come from, their stage. Only the
phase that they leave may differ, where they leave it as it was.

* `route_congr`: calls that take the same course as far as desk and command go end alike.
* `route_agrees`: they agree in the phase as well, if they come from the same one.
-/

namespace SlashLine.Dispatch

open Command Output Recovery

/-- Two calls with the same desk, for the same command. -/
structure Call.Alike (call call' : Call) : Prop where
  desk : call.desk = call'.desk
  command : call.command = call'.command

/-- The same came of two lines, the trace and the phase apart, and the routers share it
afterwards. -/
structure Router.Routed.Alike (routed routed' : Router.Routed) : Prop where
  outcome : routed.outcome = routed'.outcome
  panels : routed.panels = routed'.panels
  engine : routed.router.engine = routed'.router.engine
  ownLog : routed.router.ownLog = routed'.router.ownLog
  stage : routed.router.stage = routed'.router.stage

/-- The same came of two lines, the trace apart, and the routers share it afterwards, with the
phase. -/
structure Router.Routed.Agrees (routed routed' : Router.Routed) : Prop
    extends routed.Alike routed' where
  lastPhase : routed.router.lastPhase = routed'.router.lastPhase

variable {router router' : Router} {context : Context} {input : String} {call call' : Call}

theorem Router.alike_handledCall (router router' : Router) (entry entry' : CommandEntry)
    (parsed : Parsed) (desk : Desk) :
    (router.handledCall entry parsed desk).Alike (router'.handledCall entry' parsed desk) :=
  ⟨rfl, rfl⟩

namespace Call.Alike

theorem consult (h : call.Alike call') (c c' : Consultation) :
    (call.consult c).Alike (call'.consult c') :=
  ⟨h.desk, h.command⟩

theorem setPrimary {content content' : Content} (h : call.Alike call')
    (hcontent : content = content') :
    (call.setPrimary content).Alike (call'.setPrimary content') := by
  subst hcontent
  exact ⟨congrArg (fun desk => desk.setPrimary "command-router" content) h.desk, h.command⟩

theorem explain (h : call.Alike call') (name : String) (result : Result) :
    (call.explain name result).Alike (call'.explain name result) := by
  unfold Call.explain
  rw [h.desk]
  split
  · exact h
  · exact h.setPrimary rfl

theorem addAll (h : call.Alike call') (feedback : List (String × Feedback)) :
    (call.addAll feedback).Alike (call'.addAll feedback) := by
  unfold Call.addAll
  induction feedback generalizing call call' with
  | nil => exact h
  | cons p rest ih =>
    simp only [List.foldl_cons]
    exact ih ⟨congrArg (fun desk => desk.addFeedback p.1 p.2) h.desk, h.command⟩

theorem render (h : call.Alike call') (console : Console) :
    Call.Alike { call with desk := (call.desk.render console).2 }
      { call' with desk := (call'.desk.render console).2 } :=
  ⟨congrArg (fun desk => (desk.render console).2) h.desk, h.command⟩

theorem enter (h : call.Alike call') (phase : Phase) :
    (call.enter phase).Alike (call'.enter phase) := by
  obtain ⟨hdesk, hcommand⟩ := h
  unfold Call.enter
  split <;> exact ⟨hdesk, hcommand⟩

theorem reportOn (h : call.Alike call') (hhome : router.home = router'.home) (context : Context)
    (input : String) (fault : Fault) :
    (router.reportOn call context input fault).1 = (router'.reportOn call' context input fault).1 ∧
      (router.reportOn call context input fault).2.Alike
        (router'.reportOn call' context input fault).2 := by
  obtain ⟨hdesk, hcommand⟩ := h
  have hplace : Router.faultContext call context input =
      Router.faultContext call' context input := by
    simp only [Router.faultContext, hcommand]
  unfold Router.reportOn
  rw [hplace, hdesk, hhome]
  dsimp only
  split <;> exact ⟨rfl, rfl, hcommand⟩

theorem safeRender (h : call.Alike call') (console : Console) :
    (Router.safeRender console call).1 = (Router.safeRender console call').1 ∧
      (Router.safeRender console call).2.Alike (Router.safeRender console call').2 := by
  obtain ⟨hdesk, hcommand⟩ := h
  unfold Router.safeRender
  rw [hdesk]
  split <;> exact ⟨rfl, rfl, hcommand⟩

/-- When a fault is dealt with, two calls that are alike come to the same, whatever their phases. -/
theorem recoverFrom (h : call.Alike call') (hhome : router.home = router'.home)
    (console : Console) (context : Context) (input : String) (fault : Fault) :
    (router.recoverFrom console call context input fault).1 =
        (router'.recoverFrom console call' context input fault).1 ∧
      (router.recoverFrom console call context input fault).2.Alike
        (router'.recoverFrom console call' context input fault).2 := by
  obtain ⟨hreport, halike⟩ := h.reportOn hhome context input fault
  unfold Router.recoverFrom
  generalize router.reportOn call context input fault = reporting at hreport halike
  generalize router'.reportOn call' context input fault = reporting' at hreport halike
  obtain ⟨outcome, reported⟩ := reporting
  obtain ⟨outcome', reported'⟩ := reporting'
  cases (show outcome = outcome' from hreport)
  cases outcome with
  | error trouble => exact ⟨rfl, halike⟩
  | ok report =>
    have hcontent : Router.faultContent fault report reported.command =
        Router.faultContent fault report reported'.command := by
      rw [halike.command]
    obtain ⟨hpainting, hpainted⟩ := (halike.setPrimary hcontent).safeRender console
    dsimp only
    generalize Router.safeRender console
      (reported.setPrimary (Router.faultContent fault report reported.command)) = painting
      at hpainting hpainted
    generalize Router.safeRender console
      (reported'.setPrimary (Router.faultContent fault report reported'.command)) = painting'
      at hpainting hpainted
    obtain ⟨painting, shown⟩ := painting
    obtain ⟨painting', shown'⟩ := painting'
    cases (show painting = painting' from hpainting)
    cases painting with
    | error trouble => exact ⟨rfl, hpainted⟩
    | ok _ => exact ⟨rfl, hpainted.enter .failed⟩

end Call.Alike

/-! ## Whole calls -/

/-- From calls that are alike the same fault escapes, or both complete with the same result. -/
theorem Call.Alike.escapes_or_completes {result : Result} (h : call.Alike call')
    (hcourse : Course router context input (.ok result) call)
    (hcourse' : Course router' context input (.ok result) call')
    (hconsole : router.consoleFor context = router'.consoleFor context) :
    (∃ fault shown shown', Escapes router context input fault shown ∧
        Escapes router' context input fault shown' ∧ shown.Alike shown') ∨
      ∃ shown shown', Completes router context input result shown ∧
        Completes router' context input result shown' ∧ shown.Alike shown' := by
  have hshown : call'.desk.render (router'.consoleFor context) =
      call.desk.render (router.consoleFor context) := by
    rw [← h.desk, ← hconsole]
  rcases call.desk.render_cases (router.consoleFor context) with
    ⟨fault, desk, hrender⟩ | ⟨desk, hrender⟩
  · exact Or.inl ⟨fault, _, _, .painting hcourse hrender,
      .painting hcourse' (hshown.trans hrender), ⟨rfl, h.command⟩⟩
  · exact Or.inr ⟨_, _, .painted hcourse hrender, .painted hcourse' (hshown.trans hrender),
      ⟨rfl, h.command⟩⟩

theorem Call.Alike.close (h : call.Alike call') (outcome : Except Fault Result) :
    (router.close outcome call).Alike (router'.close outcome call') := by
  obtain ⟨hdesk, -⟩ := h
  unfold Router.close
  rw [hdesk]
  exact ⟨rfl, rfl, rfl, rfl, rfl⟩

/-- If a fault escapes from two calls that are alike, the same comes of both lines. -/
theorem Escapes.alike {fault : Fault} (h : Escapes router context input fault call)
    (h' : Escapes router' context input fault call') (halike : call.Alike call')
    (hconsole : router.consoleFor context = router'.consoleFor context)
    (hhome : router.home = router'.home) :
    (router.route input context).Alike (router'.route input context) := by
  obtain ⟨houtcome, hcall⟩ := halike.recoverFrom hhome (router.consoleFor context) context
    input fault
  rw [h.route_eq, h'.route_eq, ← hconsole, ← houtcome]
  exact hcall.close _

theorem Completes.alike {result : Result} (h : Completes router context input result call)
    (h' : Completes router' context input result call') (halike : call.Alike call') :
    (router.route input context).Alike (router'.route input context) := by
  rw [h.route_eq, h'.route_eq]
  exact (halike.enter result.phase).close _

/-- Two routers whose calls take courses that are alike make the same of a line, the phase apart. -/
theorem route_congr {outcome : Except Fault Result}
    (h : Course router context input outcome call)
    (h' : Course router' context input outcome call') (halike : call.Alike call')
    (hconsole : router.consoleFor context = router'.consoleFor context)
    (hhome : router.home = router'.home) :
    (router.route input context).Alike (router'.route input context) := by
  cases outcome with
  | error fault => exact Escapes.alike (.raised h) (.raised h') halike hconsole hhome
  | ok result =>
    rcases halike.escapes_or_completes h h' hconsole with
      ⟨fault, shown, shown', hesc, hesc', hshown⟩ | ⟨shown, shown', hcomp, hcomp', hshown⟩
    · exact hesc.alike hesc' hshown hconsole hhome
    · exact hcomp.alike hcomp' hshown

/-- So they do with the phase, if that was the same before. -/
theorem route_agrees {outcome : Except Fault Result}
    (h : Course router context input outcome call)
    (h' : Course router' context input outcome call') (halike : call.Alike call')
    (hconsole : router.consoleFor context = router'.consoleFor context)
    (hhome : router.home = router'.home) (hphase : router.lastPhase = router'.lastPhase) :
    (router.route input context).Agrees (router'.route input context) := by
  have hroutes := route_congr h h' halike hconsole hhome
  refine ⟨hroutes, ?_⟩
  rw [lastPhase_route, lastPhase_route, hroutes.outcome, hphase]

end SlashLine.Dispatch
