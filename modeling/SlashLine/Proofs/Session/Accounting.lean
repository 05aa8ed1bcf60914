import SlashLine.Proofs.Dispatch.Isolation
import SlashLine.Session

/-!
# What a session routes

A session reads lines until one asks to leave. Up to there each line stands for a text, unless it is
blank; and what the session does is to route these texts, one after the other and in its own
context. A text that overwhelms the router is the last one that is routed, and the lines after it
are not read. The reading is an induction over the events, with one lemma for each thing that an
event can be to a session.

* `routedTexts`: the texts that events stand for, up to the line that asks to leave.
* `Router.Hears`: the texts that are routed of those, up to one that overwhelms the router.
* `Session.Served`: what a session is after texts were submitted to it.
* `Session.exists_reads`: the loop, from its events.
* `Session.run_routes_texts`: the texts, the counts and the router of a session.
* `Session.boom_ends_session`: a session that does not come to its last line.
-/

namespace SlashLine

open Dispatch

/-! ## What lines stand for -/

/-- A line that asks to leave: without the blanks around it, and in any letter case. -/
def Event.leaves : Event → Bool
  | .line text => ["exit", "quit", "bye"].contains (Text.lower (Text.trim text))
  | .interrupt => false

/-- The text that a line stands for: the help command for a word for help in any letter case, else
the line without the blanks around it. A blank line stands for nothing. -/
def Event.text? : Event → Option String
  | .line text =>
    if Text.trim text = "" then none
    else if ["help", "?"].contains (Text.lower (Text.trim text)) then some "/help"
    else some (Text.trim text)
  | .interrupt => none

/-- The texts of the events before the first one that asks to leave. -/
def routedTexts (events : List Event) : List String :=
  (events.takeWhile (!·.leaves)).filterMap Event.text?

variable {event : Event} {events : List Event} {text : String}

theorem routedTexts_of_leaves (h : event.leaves = true) : routedTexts (event :: events) = [] := by
  simp [routedTexts, h]

theorem routedTexts_of_stays (h : event.leaves = false) :
    routedTexts (event :: events) = event.text?.toList ++ routedTexts events := by
  simp only [routedTexts, List.takeWhile_cons, h, Bool.not_false, if_true]
  cases htext : event.text? with
  | none => rw [List.filterMap_cons_none htext]; rfl
  | some text => rw [List.filterMap_cons_some htext]; rfl

example : routedTexts
    [.line "/errors ", .line "\t", .interrupt, .line " Help", .line "QUIT", .line "/never"] =
      ["/errors", "/help"] := by
  decide +kernel

theorem trim_eq_empty_iff : Text.trim text = "" ↔ Text.allBlank text = true := by
  unfold Text.trim Text.allBlank
  rw [List.all_eq_true, ← Text.trimList_eq_nil_iff]
  constructor
  · intro h
    exact String.ofList_injective h
  · intro h
    rw [h]

/-! ## Texts that are routed -/

/-- Texts are routed one after the other, in one context: all of them, or those up to the first one
that overwhelms the router, with what overwhelms it. -/
inductive Dispatch.Router.Hears (context : Context) :
    Router → List String → List String → Option Fault → Prop
  | all {router : Router} : Hears context router [] [] none
  | next {router : Router} {text : String} {texts heard : List String} {fault : Option Fault}
      {result : Result} (houtcome : (router.route text context).outcome = .ok result)
      (hrest : Hears context (router.route text context).router texts heard fault) :
      Hears context router (text :: texts) (text :: heard) fault
  | overwhelmed {router : Router} {text : String} {texts : List String} {trouble : Fault}
      (houtcome : (router.route text context).outcome = .error trouble) :
      Hears context router (text :: texts) [text] (some trouble)

/-- The router after lines were routed one after the other. -/
def Dispatch.Router.afterAll (router : Router) (lines : List (String × Context)) : Router :=
  lines.foldl (fun router line => (router.route line.1 line.2).router) router

namespace Dispatch.Router

variable {router : Router} {context : Context} {texts texts' heard heard' : List String}
  {fault fault' : Option Fault}

theorem afterAll_append (router : Router) (before after : List (String × Context)) :
    router.afterAll (before ++ after) = (router.afterAll before).afterAll after :=
  List.foldl_append

theorem routeAll_append (router : Router) (before after : List (String × Context)) :
    router.routeAll (before ++ after) =
      router.routeAll before ++ (router.afterAll before).routeAll after := by
  induction before generalizing router with
  | nil => rfl
  | cons line before ih => exact congrArg _ (ih _)

theorem length_routeAll (router : Router) (lines : List (String × Context)) :
    (router.routeAll lines).length = lines.length := by
  induction lines generalizing router with
  | nil => rfl
  | cons line lines ih => exact congrArg Nat.succ (ih _)

namespace Hears

/-- Which texts are routed is decided by the router and the context. -/
theorem unique (h : Hears context router texts heard fault)
    (h' : Hears context router texts heard' fault') : heard = heard' ∧ fault = fault' := by
  induction h generalizing heard' fault' with
  | all =>
    cases h'
    exact ⟨rfl, rfl⟩
  | next houtcome hrest ih =>
    cases h' with
    | next houtcome' hrest' =>
      obtain ⟨rfl, rfl⟩ := ih hrest'
      exact ⟨rfl, rfl⟩
    | overwhelmed houtcome' => cases houtcome.symm.trans houtcome'
  | overwhelmed houtcome =>
    cases h' with
    | next houtcome' hrest' => cases houtcome.symm.trans houtcome'
    | overwhelmed houtcome' =>
      cases houtcome.symm.trans houtcome'
      exact ⟨rfl, rfl⟩

theorem head?_eq (h : Hears context router texts heard fault) : heard.head? = texts.head? := by
  cases h <;> rfl

theorem eq_nil_iff (h : Hears context router texts heard fault) : heard = [] ↔ texts = [] := by
  rw [← List.head?_eq_none_iff, h.head?_eq, List.head?_eq_none_iff]

/-- If nothing overwhelms the router, all texts are routed. -/
theorem eq_of_none (h : Hears context router texts heard none) : heard = texts := by
  generalize hfault : (none : Option Fault) = fault at h
  induction h with
  | all => rfl
  | next _ _ ih => rw [ih hfault]
  | overwhelmed => cases hfault

/-- All texts are routed without trouble exactly if each of them comes to a result. -/
theorem eq_none_iff (h : Hears context router texts heard fault) :
    fault = none ↔
      ∀ routed ∈ router.routeAll (texts.map (·, context)),
        ∃ result, routed.outcome = .ok result := by
  induction h with
  | all => exact iff_of_true rfl (List.forall_mem_nil _)
  | next houtcome _ ih =>
    rw [ih, List.map_cons, routeAll, List.forall_mem_cons]
    exact (and_iff_right ⟨_, houtcome⟩).symm
  | overwhelmed houtcome =>
    rw [List.map_cons, routeAll, List.forall_mem_cons, houtcome]
    refine iff_of_false (Option.some_ne_none _) ?_
    rintro ⟨⟨result, hresult⟩, -⟩
    cases hresult

/-- After texts that have come to their results the next ones are heard as on their own. -/
theorem append (h : Hears context router texts heard none)
    (h' : Hears context (router.afterAll (heard.map (·, context))) texts' heard' fault') :
    Hears context router (texts ++ texts') (heard ++ heard') fault' := by
  generalize hfault : (none : Option Fault) = fault at h
  induction h with
  | all => exact h'
  | next houtcome _ ih => exact .next houtcome (ih h' hfault)
  | overwhelmed => cases hfault

end Hears

end Dispatch.Router

/-! ## What is done with the texts -/

/-- The exchange of a text, from what came of routing it. -/
def Exchange.of (text : String) (routed : Router.Routed) : Exchange :=
  ⟨text, routed.outcome, routed.panels⟩

/-- A session after texts were handed over to it: each was routed in the context of the session, and
they are counted, and the failed ones among them. -/
structure Session.Served (before : Session) (texts : List String) (after : Session) : Prop where
  exchanges : after.exchanges = before.exchanges ++
    texts.zipWith Exchange.of (before.router.routeAll (texts.map (·, before.context)))
  commandsRun : after.commandsRun = before.commandsRun + texts.length
  failures : after.failures = before.failures +
    (before.router.routeAll (texts.map (·, before.context))).countP (·.answers false)
  router : after.router = before.router.afterAll (texts.map (·, before.context))
  context : after.context = before.context

namespace Session

variable {session after later : Session} {texts texts' heard : List String}

theorem Served.nil (session : Session) : session.Served [] session :=
  ⟨(List.append_nil _).symm, rfl, rfl, rfl, rfl⟩

/-- To serve some texts and then others is to serve them all. -/
theorem Served.append (h : session.Served texts after) (h' : after.Served texts' later) :
    session.Served (texts ++ texts') later := by
  obtain ⟨hexchanges, hcommandsRun, hfailures, hrouter, hcontext⟩ := h
  obtain ⟨hexchanges', hcommandsRun', hfailures', hrouter', hcontext'⟩ := h'
  rw [hcontext] at hexchanges' hfailures' hrouter'
  rw [hrouter] at hexchanges' hfailures' hrouter'
  have hlength : texts.length =
      (session.router.routeAll (texts.map (·, session.context))).length := by
    rw [Router.length_routeAll, List.length_map]
  refine ⟨?_, ?_, ?_, ?_, hcontext'.trans hcontext⟩
  · rw [hexchanges', hexchanges, List.map_append, Router.routeAll_append, List.append_assoc,
      List.zipWith_append hlength]
  · rw [hcommandsRun', hcommandsRun, List.length_append, Nat.add_assoc]
  · rw [hfailures', hfailures, List.map_append, Router.routeAll_append, List.countP_append,
      Nat.add_assoc]
  · rw [hrouter', List.map_append, Router.afterAll_append]

theorem map_text_zipWith {texts : List String} {routed : List Router.Routed}
    (h : texts.length = routed.length) :
    (texts.zipWith Exchange.of routed).map Exchange.text = texts := by
  induction texts generalizing routed with
  | nil => rfl
  | cons text texts ih =>
    cases routed with
    | nil => cases h
    | cons first routed =>
      rw [List.zipWith_cons_cons, List.map_cons, ih (Nat.succ.inj h)]
      rfl

theorem Served.map_text (h : session.Served texts after) :
    after.exchanges.map Exchange.text = session.exchanges.map Exchange.text ++ texts := by
  rw [h.exchanges, List.map_append, map_text_zipWith]
  rw [Router.length_routeAll, List.length_map]

/-- No more texts fail than are counted. -/
theorem Served.failures_le (h : session.Served texts after)
    (hbefore : session.failures ≤ session.commandsRun) : after.failures ≤ after.commandsRun := by
  have hcount := List.countP_le_length (p := (·.answers false))
    (l := session.router.routeAll (texts.map (·, session.context)))
  rw [Router.length_routeAll, List.length_map] at hcount
  rw [h.failures, h.commandsRun]
  omega

/-- A text is routed and counted, and its failure too, whatever it comes to. -/
theorem served_submit (session : Session) (text : String) :
    session.Served [text] (session.submit text).2 := by
  have hone : session.router.routeAll ([text].map (·, session.context)) =
      [session.router.route text session.context] := rfl
  refine ⟨rfl, rfl, ?_, rfl, rfl⟩
  rw [hone, List.countP_singleton, submit]
  split <;> rfl

/-! ## The loop -/

theorem advance_of_leaves (session : Session) (h : event.leaves = true) :
    session.advance event = (.ok true, session, []) := by
  cases event with
  | interrupt => cases h
  | line text =>
    have hblank : ¬ Text.allBlank text = true := by
      intro hall
      rw [Event.leaves, trim_eq_empty_iff.mpr hall] at h
      exact absurd h (by decide)
    have hexit : exitWords.contains (Text.lower (Text.trim text)) = true := h
    simp only [advance, process, if_neg hblank, hexit, if_true]

theorem advance_of_silent (session : Session) (hstays : event.leaves = false)
    (h : event.text? = none) : ∃ echoes, session.advance event = (.ok false, session, echoes) := by
  cases event with
  | interrupt => exact ⟨_, rfl⟩
  | line text =>
    refine ⟨[], ?_⟩
    have hblank : Text.allBlank text = true := by
      by_contra hblank
      rw [Event.text?, if_neg fun e => hblank (trim_eq_empty_iff.mp e)] at h
      split at h <;> cases h
    rw [advance, if_pos hblank]

/-- An event at which the session stays has its text submitted, if it has one. -/
theorem advance_of_text (session : Session) {text : String} (hstays : event.leaves = false)
    (h : event.text? = some text) :
    session.advance event =
      ((session.submit text).1.map fun _ => false, (session.submit text).2, []) := by
  cases event with
  | interrupt => cases h
  | line line =>
    have hblank : ¬ Text.allBlank line = true := by
      intro hblank
      rw [Event.text?, if_pos (trim_eq_empty_iff.mpr hblank)] at h
      cases h
    have hexit : exitWords.contains (Text.lower (Text.trim line)) = false := hstays
    have htext : (if helpWords.contains (Text.lower (Text.trim line)) then "/help"
        else Text.trim line) = text := by
      rw [Event.text?, if_neg fun e => hblank (trim_eq_empty_iff.mp e)] at h
      exact Option.some.inj ((apply_ite some _ _ _).trans h)
    rw [advance, if_neg hblank, process]
    simp only [hexit, Bool.false_eq_true, if_false, htext]

/-- What a session has read of its events when it is closed: it has routed their texts, up to the
first one that overwhelms the router. The events that are left are those after the exit, or those
after the text that was too much. -/
structure Reads (session : Session) (events : List Event) (closing : Closing)
    (heard : List String) : Prop where
  hears : Router.Hears session.context session.router (routedTexts events) heard closing.fault
  served : session.Served heard closing.session
  unread : closing.fault = none → closing.unread = (events.dropWhile (!·.leaves)).tail
  unread_of_fault (trouble : Fault) (hfault : closing.fault = some trouble) :
    ∃ before event, events = before ++ event :: closing.unread ∧
      heard = routedTexts (before ++ [event])
  broken : closing.broken = closing.fault.any (!·.endsInput)

theorem reads_of_leaves (session : Session) (h : event.leaves = true) (events : List Event) :
    session.Reads (event :: events) (session.loop (event :: events)) [] := by
  have hloop : session.loop (event :: events) =
      { session, echoes := [.prompt], unread := events } := by
    rw [loop, session.advance_of_leaves h]
  rw [hloop]
  refine ⟨?_, .nil session, fun _ => ?_, fun _ => nofun, rfl⟩
  · rw [routedTexts_of_leaves h]
    exact .all
  · rw [List.dropWhile_cons_of_neg (by simp [h])]
    rfl

/-- The loop goes on after an event whose texts have come to their results. -/
theorem Reads.cons {first heard : List String} {closing : Closing} {echoes : List Echo}
    (hstays : event.leaves = false) (htexts : event.text?.toList = first)
    (hfirst : Router.Hears session.context session.router first first none)
    (hserved : session.Served first after) (h : after.Reads events closing heard) :
    session.Reads (event :: events) (closing.after echoes) (first ++ heard) := by
  obtain ⟨hhears, hlater, hunread, hlast, hbroken⟩ := h
  refine ⟨?_, hserved.append hlater, fun hnone => ?_, fun trouble hfault => ?_, hbroken⟩
  · rw [hserved.context, hserved.router] at hhears
    rw [routedTexts_of_stays hstays, htexts]
    exact hfirst.append hhears
  · rw [List.dropWhile_cons_of_pos (by simp [hstays])]
    exact hunread hnone
  · obtain ⟨before, last, hevents, hheard⟩ := hlast trouble hfault
    refine ⟨event :: before, last, congrArg _ hevents, ?_⟩
    rw [List.cons_append, routedTexts_of_stays hstays, htexts, hheard]

theorem exists_reads (session : Session) (events : List Event) :
    ∃ heard, session.Reads events (session.loop events) heard := by
  induction events generalizing session with
  | nil => exact ⟨[], .all, .nil session, fun _ => rfl, fun _ => nofun, rfl⟩
  | cons event events ih =>
    cases hleaves : event.leaves with
    | true => exact ⟨[], session.reads_of_leaves hleaves events⟩
    | false =>
      cases htext : event.text? with
      | none =>
        obtain ⟨echoes, hadvance⟩ := session.advance_of_silent hleaves htext
        obtain ⟨heard, hreads⟩ := ih session
        rw [loop, hadvance]
        exact ⟨_, hreads.cons hleaves (congrArg Option.toList htext) .all (.nil session)⟩
      | some text =>
        have hserved := session.served_submit text
        have hsubmit : (session.submit text).1 =
            (session.router.route text session.context).outcome.map fun _ => () := rfl
        rw [loop, session.advance_of_text hleaves htext, hsubmit]
        cases houtcome : (session.router.route text session.context).outcome with
        | error trouble =>
          have hhears : Router.Hears session.context session.router
              (routedTexts (event :: events)) [text] (some trouble) := by
            rw [routedTexts_of_stays hleaves, htext]
            exact .overwhelmed houtcome
          have hlast : [text] = routedTexts ([] ++ [event]) := by
            rw [List.nil_append, routedTexts_of_stays hleaves, htext]
            rfl
          exact ⟨[text], hhears, hserved, nofun, fun _ _ => ⟨[], event, rfl, hlast⟩, rfl⟩
        | ok result =>
          obtain ⟨heard, hreads⟩ := ih (session.submit text).2
          exact ⟨_, hreads.cons hleaves (congrArg Option.toList htext) (.next houtcome .all)
            hserved⟩

/-! ## A whole session -/

/-- A farewell changes nothing but what is written. -/
theorem Closing.farewelled_eq (closing : Closing) :
    ∃ echoes, closing.farewelled = { closing with echoes } := by
  rw [farewelled]
  split
  · exact ⟨closing.echoes, rfl⟩
  · exact ⟨_, rfl⟩

theorem Reads.farewelled {closing : Closing} (h : session.Reads events closing heard) :
    session.Reads events closing.farewelled heard := by
  obtain ⟨echoes, hfarewelled⟩ := closing.farewelled_eq
  rw [hfarewelled]
  exact ⟨h.hears, h.served, h.unread, h.unread_of_fault, h.broken⟩

/-- A new session without an initial command routes the texts that its lines stand for, up to the
first line that asks to leave, in its own context and one after the other; all of them exactly if
each comes to a result, and else those up to the first that comes to none. It counts the texts that
it routes and those of them that failed, ends with the router that routing them has led to, and
leaves the lines after the last one unread. What overwhelms the router breaks the session off,
unless it is taken for the end of the input. -/
theorem run_routes_texts (router : Router) (id workspace : Option String) (events : List Event) :
    let session : Session := { router, sessionId := id, workspace }
    let lines (texts : List String) : List (String × Context) :=
      texts.map (·, { sessionId := id, workspace })
    let closing := session.run none events
    let ended := closing.session
    ∃ heard, Router.Hears session.context router (routedTexts events) heard closing.fault ∧
      ended.exchanges = heard.zipWith Exchange.of (router.routeAll (lines heard)) ∧
      ended.exchanges.map Exchange.text = heard ∧
      ended.commandsRun = heard.length ∧
      ended.failures = (router.routeAll (lines heard)).countP (·.answers false) ∧
      ended.failures ≤ ended.commandsRun ∧
      ended.router = router.afterAll (lines heard) ∧
      ((closing.fault = none ∧ heard = routedTexts events ∧
          closing.unread = (events.dropWhile (!·.leaves)).tail) ↔
        ∀ routed ∈ router.routeAll (lines (routedTexts events)),
          ∃ result, routed.outcome = .ok result) ∧
      (∀ trouble, closing.fault = some trouble →
        ∃ before event, events = before ++ event :: closing.unread ∧
          heard = routedTexts (before ++ [event])) ∧
      closing.broken = closing.fault.any (!·.endsInput) := by
  intro session lines closing ended
  obtain ⟨heard, hloop⟩ := session.exists_reads events
  have hreads : session.Reads events closing heard := hloop.farewelled
  obtain ⟨hhears, hserved, hunread, hlast, hbroken⟩ := hreads
  refine ⟨heard, hhears, hserved.exchanges, hserved.map_text, ?_, ?_,
    hserved.failures_le (Nat.le_refl 0), hserved.router, ?_, hlast, hbroken⟩
  · exact hserved.commandsRun.trans (Nat.zero_add _)
  · exact hserved.failures.trans (Nat.zero_add _)
  · refine Iff.trans ⟨fun h => h.1, fun hnone => ⟨hnone, ?_, hunread hnone⟩⟩ hhears.eq_none_iff
    rw [hnone] at hhears
    exact hhears.eq_of_none

/-- The line after a command that cannot tell why it fails is never read, though nobody has asked to
leave. -/
theorem boom_ends_session :
    let session : Session :=
      { router := wordlessRouter, sessionId := some "s1", workspace := none }
    let closing := session.run none [.line "/boom", .line "/help"]
    routedTexts [.line "/boom", .line "/help"] = ["/boom", "/help"] ∧
      closing.session.exchanges.map Exchange.text = ["/boom"] ∧
      closing.fault =
        some (.other "TypeError" "%d format: a real number is required, not NoneType") ∧
      closing.unread = [.line "/help"] :=
  ⟨by decide +kernel, by decide +kernel, by decide +kernel, by decide +kernel⟩

end Session

end SlashLine
