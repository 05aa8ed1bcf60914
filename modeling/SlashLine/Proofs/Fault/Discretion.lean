import SlashLine.Fault.Classification

/-!
# Reports and local directories

The text of a fault is shown without the directories of the paths in it, and with a mark in place of
the home directory. A place in the file system is made of path characters and starts with a slash.
A slash that is kept is followed by the same path characters as before, so leaving out directories
brings no place together that was not there; and the mark for the home directory is no path
character, so neither does the replacement.

A report is made of four parts: the kind of the fault, the operation, its text, and the file that
was worked on. Only the text is treated like this. The file stands at the end as it was given.

* `Discreet`: a text shows neither the home directory nor any other directory.
* `discreet_sanitizeText`: the text of a fault is discreet.
* `not_everyReportDiscreet`: a report about a file need not be.
* `discreet_report_iff`: a report is as discreet as the parts that are not treated.
-/

namespace SlashLine

/-! ## Places -/

/-- The characters of the names of plain home directories. -/
def isStepChar (c : Char) : Bool := c.isAlphanum || c == '_' || c == '-'

/-- A home directory below the root, in plain names. -/
def IsHome (home : List Char) : Prop :=
  ∃ steps : List (List Char), steps ≠ [] ∧
    (∀ step ∈ steps, step ≠ [] ∧ ∀ c ∈ step, isStepChar c = true) ∧
    home = steps.flatMap ('/' :: ·)

/-- A path that starts at the root, in path characters, and does not end in a point. -/
structure IsPlainPath (path : List Char) : Prop where
  absolute : ∃ steps, path = '/' :: steps
  plain : ∀ c ∈ path, isPathChar c = true
  ending : path.getLast? ≠ some '.'

/-- What should not be shown: the home directory, and whatever stands between two slashes with only
path characters in between. -/
inductive IsLocal (home : List Char) : List Char → Prop
  | home : IsLocal home home
  | directory {steps : List Char} (hsteps : ∀ c ∈ steps, isPathChar c = true) :
      IsLocal home ('/' :: (steps ++ ['/']))

/-- No local place occurs in a text. -/
def Discreet (home cs : List Char) : Prop := ∀ place, IsLocal home place → ¬ place <:+: cs

variable {home place steps cs : List Char}

theorem isPathChar_of_isStepChar {c : Char} (h : isStepChar c = true) : isPathChar c = true := by
  simp only [isStepChar, isPathChar, Bool.or_eq_true] at h ⊢
  rcases h with (hname | hscore) | hdash
  · exact Or.inl (Or.inl (Or.inl (Or.inl hname)))
  · exact Or.inl (Or.inl (Or.inl (Or.inr hscore)))
  · exact Or.inr hdash

theorem ne_point_of_isStepChar {c : Char} (h : isStepChar c = true) : c ≠ '.' := by
  rintro rfl
  exact absurd h (by decide)

/-- The home is a plain path. -/
theorem IsHome.isPlainPath (h : IsHome home) : IsPlainPath home := by
  obtain ⟨steps, hne, hsteps, rfl⟩ := h
  have hchar : ∀ c ∈ steps.flatMap ('/' :: ·), c = '/' ∨ isStepChar c = true := by
    intro c hc
    obtain ⟨step, hstep, hmem⟩ := List.mem_flatMap.mp hc
    rcases List.mem_cons.mp hmem with rfl | hmem
    · exact Or.inl rfl
    · exact Or.inr ((hsteps step hstep).2 c hmem)
  refine ⟨?_, ?_, ?_⟩
  · cases steps with
    | nil => exact absurd rfl hne
    | cons step rest => exact ⟨_, rfl⟩
  · intro c hc
    rcases hchar c hc with rfl | hstep
    · rfl
    · exact isPathChar_of_isStepChar hstep
  · intro hlast
    rcases hchar '.' (List.mem_of_getLast? hlast) with hslash | hstep
    · exact absurd hslash (by decide)
    · exact ne_point_of_isStepChar hstep rfl

theorem isPlainPath_directory (hsteps : ∀ c ∈ steps, isPathChar c = true) :
    IsPlainPath ('/' :: (steps ++ ['/'])) := by
  refine ⟨⟨_, rfl⟩, ?_, ?_⟩
  · intro c hc
    simp only [List.mem_cons, List.mem_append, List.not_mem_nil, or_false] at hc
    rcases hc with rfl | hmem | rfl
    · rfl
    · exact hsteps c hmem
    · rfl
  · rw [← List.cons_append, List.getLast?_concat]
    decide

theorem IsLocal.isPlainPath (hhome : IsPlainPath home) (h : IsLocal home place) :
    IsPlainPath place := by
  cases h with
  | home => exact hhome
  | directory hsteps => exact isPlainPath_directory hsteps

theorem IsPlainPath.ne_nil (h : IsPlainPath place) : place ≠ [] := by
  obtain ⟨steps, rfl⟩ := h.absolute
  exact List.cons_ne_nil _ _

theorem discreet_of_no_slash (hhome : IsPlainPath home) (h : '/' ∉ cs) : Discreet home cs := by
  intro place hplace hshown
  obtain ⟨steps, rfl⟩ := (hplace.isPlainPath hhome).absolute
  exact h (hshown.subset List.mem_cons_self)

/-! ## Parts of texts -/

/-- A place does not go beyond a character that is no path character. -/
theorem IsPlainPath.infix_append_cons_iff (h : IsPlainPath place) {c : Char}
    (hc : isPathChar c = false) (before after : List Char) :
    place <:+: before ++ c :: after ↔ place <:+: before ∨ place <:+: after := by
  have hmem : c ∉ place := by
    intro hmem
    rw [h.plain c hmem] at hc
    cases hc
  constructor
  · intro hshown
    rcases List.infix_append_iff.mp hshown with hbefore | hafter | ⟨head, tail, rfl, hhead, htail⟩
    · exact Or.inl hbefore
    · rcases List.infix_cons_iff.mp hafter with hfront | hafter
      · rcases List.prefix_cons_iff.mp hfront with rfl | ⟨rest, rfl, -⟩
        · exact absurd rfl h.ne_nil
        · exact absurd List.mem_cons_self hmem
      · exact Or.inr hafter
    · rcases List.prefix_cons_iff.mp htail with rfl | ⟨rest, rfl, -⟩
      · rw [List.append_nil]
        exact Or.inl hhead.isInfix
      · exact absurd (List.mem_append_right head List.mem_cons_self) hmem
  · rintro (hbefore | hafter)
    · exact hbefore.trans ⟨[], c :: after, rfl⟩
    · exact hafter.trans ⟨before ++ [c], [], by simp⟩

/-- Over a character that is in no path, neither the home nor a directory can reach. -/
theorem discreet_append_cons_iff (hhome : IsPlainPath home) {c : Char} (hc : isPathChar c = false)
    (before after : List Char) :
    Discreet home (before ++ c :: after) ↔ Discreet home before ∧ Discreet home after := by
  constructor
  · intro h
    refine ⟨fun place hplace hshown => h place hplace ?_,
      fun place hplace hshown => h place hplace ?_⟩
    · exact ((hplace.isPlainPath hhome).infix_append_cons_iff hc before after).mpr (Or.inl hshown)
    · exact ((hplace.isPlainPath hhome).infix_append_cons_iff hc before after).mpr (Or.inr hshown)
  · rintro ⟨hbefore, hafter⟩ place hplace hshown
    rcases ((hplace.isPlainPath hhome).infix_append_cons_iff hc before after).mp hshown with h | h
    · exact hbefore place hplace h
    · exact hafter place hplace h

/-- A place does not end in a point. -/
theorem IsPlainPath.infix_of_infix_append_point (h : IsPlainPath place)
    (hshown : place <:+: cs ++ ['.']) : place <:+: cs := by
  rcases List.infix_concat_iff.mp hshown with hsuffix | hbefore
  · rcases List.suffix_concat_iff.mp hsuffix with rfl | ⟨before, rfl, -⟩
    · exact absurd rfl h.ne_nil
    · exact absurd List.getLast?_concat h.ending
  · exact hbefore

/-- The dots of a text that was cut complete no directory. -/
theorem discreet_append_point_iff (hhome : IsPlainPath home) :
    Discreet home (cs ++ ['.']) ↔ Discreet home cs := by
  constructor
  · intro h place hplace hshown
    exact h place hplace (hshown.trans ⟨[], ['.'], rfl⟩)
  · intro h place hplace hshown
    exact h place hplace ((hplace.isPlainPath hhome).infix_of_infix_append_point hshown)

/-! ## Texts of faults -/

theorem throughLastSlash_eq_zero_iff : throughLastSlash cs = 0 ↔ '/' ∉ cs := by
  induction cs with
  | nil => simp [throughLastSlash]
  | cons c cs ih =>
    rw [throughLastSlash, List.mem_cons, not_or, ← ih]
    cases throughLastSlash cs with
    | zero =>
      by_cases hslash : '/' = c
      · simp [← hslash]
      · simp [hslash, Ne.symm hslash]
    | succ n => simp

/-- After a slash that is kept come the same path characters as before. -/
theorem takeWhile_dropDirectories (h : '/' ∉ cs.takeWhile isPathChar) :
    (dropDirectoriesFrom 0 cs).takeWhile isPathChar = cs.takeWhile isPathChar := by
  induction cs with
  | nil => rfl
  | cons c cs ih =>
    cases hpath : isPathChar c with
    | true =>
      rw [List.takeWhile_cons_of_pos hpath, List.mem_cons, not_or] at h
      have hslash : ¬ (c == '/') = true := by simpa using Ne.symm h.1
      rw [dropDirectoriesFrom, if_neg hslash, List.takeWhile_cons_of_pos hpath,
        List.takeWhile_cons_of_pos hpath, ih h.2]
    | false =>
      have hslash : ¬ (c == '/') = true := by
        intro heq
        rw [beq_iff_eq.mp heq] at hpath
        cases hpath
      rw [dropDirectoriesFrom, if_neg hslash,
        List.takeWhile_cons_of_neg (ne_true_of_eq_false hpath),
        List.takeWhile_cons_of_neg (ne_true_of_eq_false hpath)]

theorem prefix_takeWhile {p : Char → Bool} (hsteps : ∀ c ∈ steps, p c = true) (h : steps <+: cs) :
    steps <+: cs.takeWhile p := by
  obtain ⟨rest, rfl⟩ := h
  rw [List.takeWhile_append_of_pos hsteps]
  exact ⟨_, rfl⟩

/-- What follows a slash in path characters has followed it before, and has no slash in it. -/
theorem infix_of_infix_dropDirectoriesFrom (hsteps : ∀ c ∈ steps, isPathChar c = true) (skip : Nat)
    (h : '/' :: steps <:+: dropDirectoriesFrom skip cs) : '/' :: steps <:+: cs ∧ '/' ∉ steps := by
  have later {c : Char} {cs : List Char} (h : '/' :: steps <:+: cs ∧ '/' ∉ steps) :
      '/' :: steps <:+: c :: cs ∧ '/' ∉ steps :=
    ⟨List.infix_cons h.1, h.2⟩
  induction cs generalizing skip with
  | nil => simp [dropDirectoriesFrom] at h
  | cons c cs ih =>
    cases skip with
    | succ skip => exact later (ih skip h)
    | zero =>
      rw [dropDirectoriesFrom] at h
      split at h
      · split at h
        · next hkept =>
          have hslash := throughLastSlash_eq_zero_iff.mp hkept
          rcases List.infix_cons_iff.mp h with hstart | hshown
          · obtain ⟨rfl, hfront⟩ := List.cons_prefix_cons.mp hstart
            have hrun := prefix_takeWhile hsteps hfront
            rw [takeWhile_dropDirectories hslash] at hrun
            have hcs : steps <+: cs := hrun.trans (List.takeWhile_prefix _)
            exact ⟨(List.cons_prefix_cons.mpr ⟨rfl, hcs⟩).isInfix,
              fun hmem => hslash (hrun.subset hmem)⟩
          · exact later (ih 0 hshown)
        · exact later (ih _ h)
      · next hslash =>
        rcases List.infix_cons_iff.mp h with hstart | hshown
        · obtain ⟨rfl, -⟩ := List.cons_prefix_cons.mp hstart
          exact absurd rfl hslash
        · exact later (ih 0 hshown)

/-- A plain path that is shown after cutting was there before, as it has no dot at its end. -/
theorem IsPlainPath.infix_of_infix_cutText (h : IsPlainPath place)
    (hshown : place <:+: cutText cs) : place <:+: cs := by
  unfold cutText at hshown
  split at hshown
  · have hdots : cs.take longestText ++ "...".toList =
        cs.take longestText ++ ['.'] ++ ['.'] ++ ['.'] := by
      simp
    rw [hdots] at hshown
    have htake := h.infix_of_infix_append_point (h.infix_of_infix_append_point
      (h.infix_of_infix_append_point hshown))
    exact htake.trans (List.take_prefix _ _).isInfix
  · exact hshown

/-- What a sanitised text shows of a place comes from its text with the marks, and has one slash. -/
theorem infix_of_infix_sanitizeText (h : IsPlainPath ('/' :: steps))
    (hshown : '/' :: steps <:+: sanitizeText home cs) :
    '/' :: steps <:+: Text.replaceAll home ['~'] cs ∧ '/' ∉ steps :=
  infix_of_infix_dropDirectoriesFrom (fun c hc => h.plain c (List.mem_cons_of_mem _ hc)) 0
    (h.infix_of_infix_cutText hshown)

/-- No directory is left by dropping them, wherever the text is cut. -/
theorem not_infix_sanitizeText_directory (hsteps : ∀ c ∈ steps, isPathChar c = true) :
    ¬ '/' :: (steps ++ ['/']) <:+: sanitizeText home cs := by
  intro hshown
  obtain ⟨-, hslash⟩ := infix_of_infix_sanitizeText (isPlainPath_directory hsteps) hshown
  exact hslash (List.mem_append_right _ List.mem_cons_self)

/-- Nor is the home, though dropping a directory joins what was around it. -/
theorem not_infix_sanitizeText_home (hhome : IsPlainPath home) :
    ¬ home <:+: sanitizeText home cs := by
  intro hshown
  have hmark : '~' ∉ home := fun hmem => absurd (hhome.plain _ hmem) (by decide)
  have hreplaced : ¬ home <:+: Text.replaceAll home ['~'] cs :=
    Text.not_infix_replaceAll hhome.ne_nil hmark cs
  obtain ⟨steps, rfl⟩ := hhome.absolute
  exact hreplaced (infix_of_infix_sanitizeText hhome hshown).1

/-- What is sanitized shows no place. -/
theorem discreet_sanitizeText (hhome : IsPlainPath home) (cs : List Char) :
    Discreet home (sanitizeText home cs) := by
  intro place hplace
  cases hplace with
  | home => exact not_infix_sanitizeText_home hhome
  | directory hsteps => exact not_infix_sanitizeText_directory hsteps

/-! ## Reports -/

theorem isPathChar_space : isPathChar ' ' = false := by decide

theorem isPathChar_colon : isPathChar ':' = false := by decide

/-- With a file at its end a text is as discreet as the two on their own. -/
theorem discreet_append_file_iff (hhome : IsPlainPath home) (file? : Option String) :
    Discreet home (cs ++ ((file?.map (". File: " ++ ·)).getD "").toList) ↔
      Discreet home cs ∧ ∀ file ∈ file?, Discreet home file.toList := by
  cases file? with
  | none => simp
  | some file =>
    have hword : Discreet home "File".toList := discreet_of_no_slash hhome (by decide)
    have hnil : Discreet home [] := discreet_of_no_slash hhome List.not_mem_nil
    have hfile : cs ++ (". File: " ++ file).toList =
        (cs ++ ['.']) ++ ' ' :: ("File".toList ++ ':' :: ([] ++ ' ' :: file.toList)) := by
      have hlabel : ". File: ".toList = '.' :: ' ' :: ("File".toList ++ [':', ' ']) := rfl
      simp [hlabel]
    rw [Option.map_some, Option.getD_some, hfile, discreet_append_cons_iff hhome isPathChar_space,
      discreet_append_point_iff hhome, discreet_append_cons_iff hhome isPathChar_colon,
      discreet_append_cons_iff hhome isPathChar_space]
    simp only [hword, hnil, true_and, Option.mem_some_iff, forall_eq']

/-- The parts of a technical message. There is one only about a fault that has a text. -/
theorem Rule.technicalMessage_report {home : String} {rule : Rule} {fault : Fault}
    {context : FaultContext} {report : Report}
    (h : rule.report (some home) fault context = .ok report) :
    ∃ text, report.technicalMessage = fault.kind ++ " during " ++ context.operation ++ ": " ++
      String.ofList (sanitizeText home.toList text) ++
        ((context.file?.map (". File: " ++ ·)).getD "") := by
  cases htext : fault.text with
  | error trouble =>
    rw [Rule.report, htext] at h
    cases h
  | ok text =>
    rw [Rule.report, htext] at h
    cases h
    exact ⟨text.toList, by rw [← sanitize_of_text htext]⟩

/-- Whatever rule makes a report, what it shows is up to the parts that are not treated. -/
theorem Rule.discreet_report {home : String} (hhome : IsPlainPath home.toList) {rule : Rule}
    {fault : Fault} {context : FaultContext} {report : Report}
    (h : rule.report (some home) fault context = .ok report) :
    Discreet home.toList report.technicalMessage.toList ↔
      Discreet home.toList fault.kind.toList ∧ Discreet home.toList context.operation.toList ∧
        ∀ file ∈ context.file?, Discreet home.toList file.toList := by
  have hword : Discreet home.toList "during".toList := discreet_of_no_slash hhome (by decide)
  have hnil : Discreet home.toList [] := discreet_of_no_slash hhome List.not_mem_nil
  obtain ⟨text, htechnical⟩ := Rule.technicalMessage_report h
  have hmessage : report.technicalMessage.toList =
      fault.kind.toList ++ ' ' :: ("during".toList ++ ' ' :: (context.operation.toList ++
        ':' :: ([] ++ ' ' :: (sanitizeText home.toList text ++
          ((context.file?.map (". File: " ++ ·)).getD "").toList)))) := by
    have hduring : " during ".toList = ' ' :: ("during".toList ++ [' ']) := rfl
    have hthen : ": ".toList = [':', ' '] := rfl
    simp only [htechnical, String.toList_append, hduring, hthen, String.toList_ofList,
      List.append_assoc, List.cons_append, List.nil_append]
  rw [hmessage, discreet_append_cons_iff hhome isPathChar_space,
    discreet_append_cons_iff hhome isPathChar_space,
    discreet_append_cons_iff hhome isPathChar_colon,
    discreet_append_cons_iff hhome isPathChar_space, discreet_append_file_iff hhome]
  simp only [hword, hnil, discreet_sanitizeText hhome, true_and]

/-- A report about a fault is the one that some rule makes. -/
theorem exists_rule_of_classify {home : Option String} {fault : Fault} {context : FaultContext}
    {report : Report} (h : classify home fault context = .ok report) :
    ∃ rule : Rule, rule.report home fault context = .ok report := by
  cases htext : fault.text with
  | error trouble =>
    rw [classify, htext] at h
    cases h
  | ok text => exact ⟨findRule text, by rw [← classify_of_text htext, h]⟩

/-- No report shows a local place, if the operation in its context has no slash. -/
def EveryReportDiscreet : Prop :=
  ∀ (home : String) (rule : Rule) (fault : Fault) (context : FaultContext) (report : Report),
    IsHome home.toList → '/' ∉ context.operation.toList →
      rule.report (some home) fault context = .ok report →
        Discreet home.toList report.technicalMessage.toList

/-- A fault that hits a file in the working directory, and one in a directory of data. -/
def diskFault : Fault := .other "OSError" "disk failure"
def savingNotes : FaultContext := { operation := "save", filePath := some "notes.txt" }
def savingData : FaultContext := { operation := "save", filePath := some "/var/data/notes.txt" }

theorem isHome_tester : IsHome "/home/tester".toList := by
  refine ⟨["home".toList, "tester".toList], List.cons_ne_nil _ _, ?_, rfl⟩
  intro step hstep
  simp only [List.mem_cons, List.not_mem_nil, or_false] at hstep
  rcases hstep with rfl | rfl <;> exact ⟨by decide, List.all_eq_true.mp (by decide)⟩

theorem not_discreet_data (home : List Char) : ¬ Discreet home "/var/data/notes.txt".toList := by
  intro h
  have hlocal : IsLocal home "/var/data/".toList :=
    @IsLocal.directory home "var/data".toList (List.all_eq_true.mp (by decide))
  exact h _ hlocal ⟨[], "notes.txt".toList, rfl⟩

/-- The directory of a file is shown as it was given. -/
theorem not_everyReportDiscreet :
    (∃ report, classify (some "/home/tester") diskFault savingData = .ok report ∧
      report.technicalMessage =
        "OSError during save: disk failure. File: /var/data/notes.txt") ∧
      ¬ EveryReportDiscreet := by
  refine ⟨⟨_, rfl, by decide +kernel⟩, fun h => ?_⟩
  obtain ⟨report, hreport⟩ : ∃ report,
      genericRule.report (some "/home/tester") diskFault savingData = .ok report := ⟨_, rfl⟩
  have hdiscreet := h _ _ _ _ report isHome_tester (by decide) hreport
  obtain ⟨-, -, hfile⟩ := (Rule.discreet_report isHome_tester.isPlainPath hreport).mp hdiscreet
  exact not_discreet_data _ (hfile "/var/data/notes.txt" rfl)

/-- The technical message of a report, made by whatever rule, is as discreet as the kind of the
fault, the operation and the file are. The text of the fault never matters. -/
theorem discreet_report_iff {home : String} (hhome : IsPlainPath home.toList) {fault : Fault}
    {context : FaultContext} {report : Report}
    (hreport : classify (some home) fault context = .ok report ∨
      ∃ rule : Rule, rule.report (some home) fault context = .ok report) :
    Discreet home.toList report.technicalMessage.toList ↔
      Discreet home.toList fault.kind.toList ∧ Discreet home.toList context.operation.toList ∧
        ∀ file ∈ context.file?, Discreet home.toList file.toList := by
  obtain ⟨rule, hrule⟩ : ∃ rule : Rule, rule.report (some home) fault context = .ok report :=
    hreport.elim exists_rule_of_classify id
  exact Rule.discreet_report hhome hrule

/-- A file that is given by its name alone leaves the report discreet, one that is given by its path
does not. -/
theorem name_discreet_path_not :
    ∃ named placed, classify (some "/home/tester") diskFault savingNotes = .ok named ∧
      classify (some "/home/tester") diskFault savingData = .ok placed ∧
      Discreet "/home/tester".toList named.technicalMessage.toList ∧
      ¬ Discreet "/home/tester".toList placed.technicalMessage.toList := by
  have hhome := isHome_tester.isPlainPath
  obtain ⟨named, hnamed⟩ : ∃ named,
      classify (some "/home/tester") diskFault savingNotes = .ok named := ⟨_, rfl⟩
  obtain ⟨placed, hplaced⟩ : ∃ placed,
      classify (some "/home/tester") diskFault savingData = .ok placed := ⟨_, rfl⟩
  refine ⟨named, placed, hnamed, hplaced, ?_, fun h => ?_⟩
  · refine (discreet_report_iff hhome (Or.inl hnamed)).mpr ⟨?_, ?_, ?_⟩
    · exact discreet_of_no_slash hhome (by decide)
    · exact discreet_of_no_slash hhome (by decide)
    · rintro file ⟨⟩
      exact discreet_of_no_slash hhome (by decide)
  · obtain ⟨-, -, hfile⟩ := (discreet_report_iff hhome (Or.inl hplaced)).mp h
    exact not_discreet_data _ (hfile "/var/data/notes.txt" rfl)

end SlashLine
