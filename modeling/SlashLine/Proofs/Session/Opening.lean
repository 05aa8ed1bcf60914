import SlashLine.Proofs.Session.Accounting
import SlashLine.Proofs.Text.LowerCase

/-!
# Initial commands

An initial command is dealt with before any line is read, and not as a line: the blanks around it
stay, so that a word between blanks is no word for help and none that ends the session; and where it
asks to leave, nothing is routed for it, but the lines after it are read all the same.

* `openingTexts`: the texts that an initial command stands for.
* `Session.run_initial_hears`: a session with an initial command routes them before those of its
  lines.
* `Session.SameCourse`: two sessions with the same texts, the same counts and the same router.
* `Session.initial_as_line_iff`: when an initial command might as well be the first line.
-/

namespace SlashLine

open Dispatch

/-- The texts that an initial command stands for: the help command for a word for help in any letter
case, else what is given. A word that ends a session stands for nothing, and so does no text. -/
def openingTexts (initial : String) : List String :=
  if initial = "" then []
  else if ["exit", "quit", "bye"].contains (Text.lower initial) then []
  else if ["help", "?"].contains (Text.lower initial) then ["/help"]
  else [initial]

variable {initial : String} {events : List Event}

/-- A text whose lower-case form is a word has no blanks around it. -/
theorem trim_of_trim_lower {word : String} (h : Text.lower initial = word)
    (hword : Text.trim word = word) : Text.trim initial = initial := by
  subst h
  have hlower : Text.trimList (Text.lowerList initial.toList) = Text.lowerList initial.toList := by
    have hlist := congrArg String.toList hword
    simpa only [Text.trim, Text.lower, String.toList_ofList] using hlist
  rw [Text.trim, Text.trimList_of_trimList_lowerList hlower, String.ofList_toList]

theorem trim_of_word {words : List String} (hwords : ∀ word ∈ words, Text.trim word = word)
    (h : words.contains (Text.lower initial) = true) : Text.trim initial = initial :=
  trim_of_trim_lower rfl (hwords _ (List.contains_iff_mem.mp h))

theorem openingTexts_of_untrimmed (h : Text.trim initial ≠ initial) :
    openingTexts initial = [initial] := by
  have hne : initial ≠ "" := by
    rintro rfl
    exact h rfl
  have hstays : ¬ ["exit", "quit", "bye"].contains (Text.lower initial) = true := fun hword =>
    h (trim_of_word (by decide) hword)
  have hplain : ¬ ["help", "?"].contains (Text.lower initial) = true := fun hword =>
    h (trim_of_word (by decide) hword)
  rw [openingTexts, if_neg hne, if_neg hstays, if_neg hplain]

theorem openingTexts_of_leaves (h : (Event.line initial).leaves = true)
    (htrim : Text.trim initial = initial) : openingTexts initial = [] := by
  rw [Event.leaves, htrim] at h
  rw [openingTexts, if_pos h]
  exact ite_self _

theorem openingTexts_of_stays (h : (Event.line initial).leaves = false)
    (htrim : Text.trim initial = initial) :
    openingTexts initial = (Event.line initial).text?.toList := by
  rw [Event.leaves, htrim] at h
  rw [openingTexts, Event.text?, htrim, h, if_neg Bool.false_ne_true]
  split
  · rfl
  · split <;> rfl

/-- No text of a line has blanks around it. -/
theorem trim_of_mem_routedTexts {text : String} (h : text ∈ routedTexts events) :
    Text.trim text = text := by
  obtain ⟨event, -, htext⟩ := List.mem_filterMap.mp h
  cases event with
  | interrupt => cases htext
  | line line =>
    rw [Event.text?] at htext
    split at htext
    · cases htext
    · split at htext
      · cases htext
        decide +kernel
      · cases htext
        exact Text.trim_trim line

/-- An initial command between blanks is no text that a line could stand for, so the first texts
differ. -/
theorem head?_openingTexts_ne (h : Text.trim initial ≠ initial) (events : List Event) :
    (openingTexts initial ++ routedTexts events).head? ≠
      (routedTexts (.line initial :: events)).head? := by
  rw [openingTexts_of_untrimmed h, List.singleton_append, List.head?_cons]
  intro heq
  exact h (trim_of_mem_routedTexts (List.mem_of_head? heq.symm))

/-- The same texts are routed of an initial command as of the line exactly if there are no blanks
around it, and if no text would be lost with an exit. -/
theorem heard_eq_iff {router : Router} {context : Context} {heard heard' : List String}
    {fault fault' : Option Fault}
    (h : Router.Hears context router (openingTexts initial ++ routedTexts events) heard fault)
    (h' : Router.Hears context router (routedTexts (.line initial :: events)) heard' fault') :
    heard = heard' ↔ Text.trim initial = initial ∧
      ((Event.line initial).leaves = true → routedTexts events = []) := by
  by_cases htrim : Text.trim initial = initial
  · cases hleaves : (Event.line initial).leaves with
    | true =>
      rw [openingTexts_of_leaves hleaves htrim, List.nil_append] at h
      rw [routedTexts_of_leaves hleaves] at h'
      rw [h'.eq_nil_iff.mpr rfl, h.eq_nil_iff]
      exact ⟨fun hnone => ⟨htrim, fun _ => hnone⟩, fun hnone => hnone.2 rfl⟩
    | false =>
      rw [openingTexts_of_stays hleaves htrim, ← routedTexts_of_stays hleaves] at h
      exact iff_of_true (h.unique h').1 ⟨htrim, nofun⟩
  · refine iff_of_false (fun heq => ?_) fun hboth => htrim hboth.1
    subst heq
    exact head?_openingTexts_ne htrim events (h.head?_eq.symm.trans h'.head?_eq)

namespace Session

/-- An initial command has at most one text, which is submitted. -/
theorem begin_cases (session : Session) (initial : String) :
    (openingTexts initial = [] ∧ session.begin (some initial) = (.ok (), session)) ∨
      ∃ text, openingTexts initial = [text] ∧
        session.begin (some initial) = session.submit text := by
  rw [begin, openingTexts]
  by_cases hempty : initial = ""
  · subst hempty
    exact Or.inl ⟨rfl, rfl⟩
  · have hgiven : ¬ initial.isEmpty = true := fun h => hempty (String.isEmpty_iff.mp h)
    rw [if_neg hgiven, if_neg hempty, process]
    by_cases hexit : ["exit", "quit", "bye"].contains (Text.lower initial) = true
    · have hleaves : exitWords.contains (Text.lower initial) = true := hexit
      rw [if_pos hexit, if_pos hleaves]
      exact Or.inl ⟨rfl, rfl⟩
    · have hstays : ¬ exitWords.contains (Text.lower initial) = true := hexit
      have hsubmit : ∀ text, ((session.submit text).1.map fun _ => false).map (fun _ => ()) =
          (session.submit text).1 := by
        intro text
        cases (session.submit text).1 <;> rfl
      rw [if_neg hexit, if_neg hstays]
      simp only [hsubmit]
      right
      refine ⟨if helpWords.contains (Text.lower initial) then "/help" else initial, ?_,
        Prod.eta _⟩
      rw [helpWords]
      split <;> rfl

/-- A session with an initial command routes its text before those of its lines, as long as nothing
overwhelms the router. -/
theorem run_initial_hears (session : Session) (initial : String) (events : List Event) :
    ∃ heard, Router.Hears session.context session.router
        (openingTexts initial ++ routedTexts events) heard
        (session.run (some initial) events).fault ∧
      session.Served heard (session.run (some initial) events).session := by
  rw [run]
  rcases session.begin_cases initial with ⟨hnone, hbegin⟩ | ⟨text, hone, hbegin⟩
  · obtain ⟨heard, hloop⟩ := session.exists_reads events
    rw [hnone, hbegin]
    exact ⟨heard, hloop.farewelled.hears, hloop.farewelled.served⟩
  · have hserved := session.served_submit text
    have hsubmit : session.submit text =
        ((session.router.route text session.context).outcome.map fun _ => (),
          (session.submit text).2) := rfl
    rw [hone, hbegin, hsubmit]
    cases houtcome : (session.router.route text session.context).outcome with
    | error trouble => exact ⟨[text], .overwhelmed houtcome, hserved⟩
    | ok result =>
      obtain ⟨heard, hloop⟩ := (session.submit text).2.exists_reads events
      have hreads := hloop.farewelled
      have hhears := hreads.hears
      rw [hserved.context, hserved.router] at hhears
      exact ⟨_, .next houtcome hhears, hserved.append hreads.served⟩

/-! ## The initial command as a line -/

/-- Two sessions with the same texts routed, the same counts and the same router. -/
structure SameCourse (a b : Session) : Prop where
  texts : a.exchanges.map Exchange.text = b.exchanges.map Exchange.text
  commandsRun : a.commandsRun = b.commandsRun
  failures : a.failures = b.failures
  router : a.router = b.router

/-- Two sessions that have gone on from one take the same course exactly if the same texts were
routed. -/
theorem Served.sameCourse_iff {session a b : Session} {texts texts' : List String}
    (h : session.Served texts a) (h' : session.Served texts' b) :
    SameCourse a b ↔ texts = texts' := by
  constructor
  · intro hsame
    have htexts := hsame.texts
    rw [h.map_text, h'.map_text] at htexts
    exact List.append_cancel_left htexts
  · rintro rfl
    exact ⟨by rw [h.map_text, h'.map_text], by rw [h.commandsRun, h'.commandsRun],
      by rw [h.failures, h'.failures], by rw [h.router, h'.router]⟩

theorem sameCourse_run_iff (session : Session) (initial : String) (events : List Event) :
    SameCourse (session.run (some initial) events).session
        (session.run none (.line initial :: events)).session ↔
      Text.trim initial = initial ∧
        ((Event.line initial).leaves = true → routedTexts events = []) := by
  obtain ⟨heard, hhears, hserved⟩ := session.run_initial_hears initial events
  obtain ⟨heard', hloop⟩ := session.exists_reads (.line initial :: events)
  have hreads : session.Reads (.line initial :: events)
      (session.run none (.line initial :: events)) heard' := hloop.farewelled
  rw [hserved.sameCourse_iff hreads.served]
  exact heard_eq_iff hhears hreads.hears

/-- With an initial command a session routes the texts of that command and then those of its lines,
as long as nothing overwhelms the router. That is the same as without it, when the command is read
as a line before them, exactly if there are no blanks around the command, and if it does not ask to
leave while there are texts to be routed. -/
theorem initial_as_line_iff (session : Session) (initial : String) (events : List Event) :
    (∃ heard, Router.Hears session.context session.router
        (openingTexts initial ++ routedTexts events) heard
        (session.run (some initial) events).fault ∧
      (session.run (some initial) events).session.exchanges.map Exchange.text =
        session.exchanges.map Exchange.text ++ heard) ∧
      (SameCourse (session.run (some initial) events).session
          (session.run none (.line initial :: events)).session ↔
        Text.trim initial = initial ∧
          ((Event.line initial).leaves = true → routedTexts events = [])) := by
  obtain ⟨heard, hhears, hserved⟩ := session.run_initial_hears initial events
  exact ⟨⟨heard, hhears, hserved.map_text⟩, session.sameCourse_run_iff initial events⟩

/-- A session with the built-in commands, before its first line. -/
def opened : Session where
  router := Router.fresh.withBuiltins
  sessionId := some "s1"
  workspace := some "/ws"

/-- An initial command that asks to leave does not keep the next line from being routed, and between
blanks a word for help is no such word. -/
theorem not_sameCourse_exit :
    ¬ SameCourse (opened.run (some "exit") [.line "/help"]).session
        (opened.run none [.line "exit", .line "/help"]).session ∧
      ¬ SameCourse (opened.run (some " help ") []).session
        (opened.run none [.line " help "]).session := by
  refine ⟨fun h => ?_, fun h => ?_⟩
  · obtain ⟨-, hnone⟩ := (opened.sameCourse_run_iff "exit" [.line "/help"]).mp h
    exact absurd (hnone (by decide +kernel)) (by decide +kernel)
  · obtain ⟨htrim, -⟩ := (opened.sameCourse_run_iff " help " []).mp h
    exact absurd htrim (by decide +kernel)

end Session

end SlashLine
