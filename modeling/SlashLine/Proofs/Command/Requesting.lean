import SlashLine.Command.Request
import SlashLine.Proofs.Command.Joining

/-!
# Commands that are requested

A host may name a command apart from the prompt. If the prompt is no command itself, and the named
one is known, a line is made of the two, and nothing of the prompt is lost in it: its tokens are the
name and the tokens of the prompt. Otherwise the prompt stands for itself. A line that was made
stands for itself as well, so nothing happens to it a second time.

* `Stands`: the prompts that stand for themselves, given what the host requests.
* `deriveInput_of_stands`, `deriveInput_of_not_stands`: the line of such a prompt, and of others.
* `MentionsCommand`, `mentionsCommand_of_startsWithMention`: what a mention is.
* `Requests`: the ways to name a command.
* `deriveInput_keeps_prompt`: making the line is stable and loses nothing.
-/

namespace SlashLine.Command

variable {prompt name : String} {request : Option String} {isKnown : String → Bool}
  {cs : List Char}

/-! ## Prompts that stand for themselves -/

/-- The prompt is a command already, alone or after a mention, or no known command is requested. -/
def Stands (prompt : String) (request : Option String) (isKnown : String → Bool) : Prop :=
  startsSlash (Text.trimList prompt.toList) = true ∨
    startsWithMention (Text.trimList prompt.toList) = true ∨
      requestedName request = [] ∨
        isKnown (String.ofList ('/' :: requestedName request)) = false

theorem deriveInput_of_stands (h : Stands prompt request isKnown) :
    deriveInput prompt request isKnown = Text.trim prompt := by
  unfold deriveInput
  dsimp only
  split
  · rfl
  · next hself =>
    rw [Bool.or_eq_true, not_or] at hself
    split
    · rfl
    · next hname =>
      rcases h with hslash | hmention | hnone | hunknown
      · exact absurd hslash hself.1
      · exact absurd hmention hself.2
      · exact absurd hnone hname
      · rw [hunknown]
        rfl

/-- A prompt that cannot stand alone is put after the requested command. -/
theorem deriveInput_of_not_stands (h : ¬ Stands prompt request isKnown) :
    deriveInput prompt request isKnown =
      Text.trim ("/" ++ (String.ofList (requestedName request) ++ " " ++ Text.trim prompt)) := by
  obtain ⟨hslash, hmention, hname, hknown⟩ :
      ¬ startsSlash (Text.trimList prompt.toList) = true ∧
        ¬ startsWithMention (Text.trimList prompt.toList) = true ∧
          ¬ requestedName request = [] ∧
            ¬ isKnown (String.ofList ('/' :: requestedName request)) = false := by
    simpa only [Stands, not_or] using h
  have hself : ¬ (startsSlash (Text.trimList prompt.toList) ||
      startsWithMention (Text.trimList prompt.toList)) = true := by
    rw [Bool.or_eq_true, not_or]
    exact ⟨hslash, hmention⟩
  unfold deriveInput
  dsimp only
  rw [if_neg hself]
  split
  · next hnone => exact absurd hnone hname
  · rw [if_pos (eq_true_of_ne_false hknown)]
    simp [Text.trim]

/-- A prompt that can stand alone still can without the blanks around it. -/
theorem stands_trim (h : Stands prompt request isKnown) :
    Stands (Text.trim prompt) request isKnown := by
  rwa [Stands, Text.toList_trim, Text.trimList_trimList]

theorem startsSlash_trim_slash (text : String) :
    startsSlash (Text.trim ("/" ++ text)).toList = true := by
  rw [Text.toList_trim, trimList_slash]
  rfl

/-- What starts with a slash can stand alone, whatever was requested. -/
theorem stands_trim_slash (text : String) (request : Option String) (isKnown : String → Bool) :
    Stands (Text.trim ("/" ++ text)) request isKnown := by
  refine Or.inl ?_
  rw [← Text.toList_trim, Text.trim_trim]
  exact startsSlash_trim_slash text

/-! ## What is requested -/

/-- The text starts with `@` and word characters, then blanks, then a slash. -/
def MentionsCommand (cs : List Char) : Prop :=
  ∃ word gap rest, cs = '@' :: (word ++ (gap ++ '/' :: rest)) ∧
    word ≠ [] ∧ (∀ c ∈ word, Text.isWordChar c = true) ∧
      gap ≠ [] ∧ ∀ c ∈ gap, Text.isBlank c = true

theorem takeWhile_ne_nil {p : Char → Bool} (h : (cs.dropWhile p).length < cs.length) :
    cs.takeWhile p ≠ [] := by
  intro hnil
  have hsplit := List.takeWhile_append_dropWhile (p := p) (l := cs)
  rw [hnil, List.nil_append] at hsplit
  rw [hsplit] at h
  exact Nat.lt_irrefl _ h

/-- A mention at the start of a line is found by the search for mentions. -/
theorem mentionsCommand_of_startsWithMention (h : startsWithMention cs = true) :
    MentionsCommand cs := by
  unfold startsWithMention at h
  split at h
  · next cs =>
    simp only [Bool.and_eq_true, decide_eq_true_eq, beq_iff_eq] at h
    obtain ⟨⟨hword, hgap⟩, hhead⟩ := h
    obtain ⟨rest, hrest⟩ := List.head?_eq_some_iff.mp hhead
    refine ⟨cs.takeWhile Text.isWordChar, (cs.dropWhile Text.isWordChar).takeWhile Text.isBlank,
      rest, ?_, takeWhile_ne_nil hword, List.all_eq_true.mp List.all_takeWhile,
      takeWhile_ne_nil hgap, List.all_eq_true.mp List.all_takeWhile⟩
    rw [← hrest, List.takeWhile_append_dropWhile, List.takeWhile_append_dropWhile]
  · cases h

/-- The host requests a command by its name, with or without a slash, and with any blanks around
it. -/
inductive Requests (name : String) : Option String → Prop
  | intro {before slash after : List Char} (hbefore : ∀ c ∈ before, Text.isBlank c)
      (hslash : slash = [] ∨ slash = ['/']) (hafter : ∀ c ∈ after, Text.isBlank c) :
      Requests name (some (String.ofList (before ++ (slash ++ name.toList ++ after))))

theorem dropSlash_eq_self (h : startsSlash cs = false) : dropSlash cs = cs := by
  unfold dropSlash
  split
  · cases h
  · rfl

theorem requestedName_eq (request : Option String) :
    requestedName request = dropSlash (Text.trimList (request.getD "").toList) := rfl

/-- The name is read from the request with or without a slash, and with blanks around it. -/
theorem requestedName_of_requests (hbare : Bare name) (hown : startsSlash name.toList = false)
    (h : Requests name request) : requestedName request = name.toList := by
  have hneat := trimList_neat hbare.neat
  rw [requestedName_eq]
  obtain ⟨hbefore, rfl | rfl, hafter⟩ := h
  · obtain ⟨c, cs, hchars, hink⟩ := hbare.exists_cons
    rw [Option.getD_some, String.toList_ofList, List.nil_append, hchars,
      Text.trimList_append_of_blank hbefore hafter hink, ← hchars, hneat, dropSlash_eq_self hown]
  · have hend : Text.trimEnd name.toList = name.toList := by
      rw [← hneat, Text.trimList, Text.trimEnd_trimEnd]
    have hslash : Text.isBlank '/' = false := by decide
    rw [Option.getD_some, String.toList_ofList, List.singleton_append,
      Text.trimList_append_of_blank hbefore hafter hslash, Text.trimList,
      Text.trimStart_cons_of_not_isBlank hslash, Text.trimEnd_cons_of_not_isBlank hslash, hend,
      dropSlash]

/-! ## The line that is made -/

theorem tokenize_trim_slash (text : String) :
    tokenize (Text.trim ("/" ++ text)) = tokenize ("/" ++ text) := by
  rw [tokenize, tokenize, Text.toList_trim, Text.trimList_trimList]

/-- Without a slash at the front nothing is cut off but the blanks around the prompt. -/
theorem tokenize_of_no_slash (h : startsSlash (Text.trimList prompt.toList) = false) :
    tokenize prompt = (tokensFrom (Text.trimList prompt.toList)).map String.ofList := by
  rw [tokenize, dropSlash_eq_self h]

theorem tokensFrom_bare (h : Bare name) : tokensFrom name.toList = [name.toList] := by
  have hend : scanToken none [] = ([], []) := rfl
  have hread := tokensFrom_spelled h.spells h.neat hend
  rwa [List.append_nil] at hread

/-- The tokens of a line that is made are the name and the tokens of the prompt. -/
theorem tokenize_made (hbare : Bare name)
    (hslash : startsSlash (Text.trimList prompt.toList) = false) :
    tokenize (Text.trim ("/" ++ (name ++ " " ++ Text.trim prompt))) = name :: tokenize prompt := by
  have hline : (name ++ " " ++ Text.trim prompt).toList =
      name.toList ++ ' ' :: Text.trimList prompt.toList := by
    rw [String.toList_append, String.toList_append, Text.toList_trim, List.append_assoc]
    rfl
  rw [tokenize_trim_slash, tokenize_slash, hline,
    tokensFrom_append hbare.spells.closed (by decide), tokensFrom_bare hbare,
    tokenize_of_no_slash hslash, List.singleton_append, List.map_cons, String.ofList_toList]

/-- Making a line a second time changes nothing, and a line is the prompt or a command. If the host
requests a known command, and the prompt is no command itself, alone or after a mention, the line
has the command's name for its first token and the tokens of the prompt after it. -/
theorem deriveInput_keeps_prompt (prompt : String) (request : Option String)
    (isKnown : String → Bool) :
    deriveInput (deriveInput prompt request isKnown) request isKnown =
        deriveInput prompt request isKnown ∧
      (deriveInput prompt request isKnown = Text.trim prompt ∨
        startsSlash (deriveInput prompt request isKnown).toList = true) ∧
      ∀ name, Bare name → startsSlash name.toList = false → Requests name request →
        isKnown ("/" ++ name) = true → startsSlash (Text.trimList prompt.toList) = false →
        ¬ MentionsCommand (Text.trimList prompt.toList) →
        tokenize (deriveInput prompt request isKnown) = name :: tokenize prompt := by
  refine ⟨?_, ?_, ?_⟩
  · by_cases hstands : Stands prompt request isKnown
    · rw [deriveInput_of_stands hstands, deriveInput_of_stands (stands_trim hstands),
        Text.trim_trim]
    · rw [deriveInput_of_not_stands hstands, deriveInput_of_stands (stands_trim_slash _ _ _),
        Text.trim_trim]
  · by_cases hstands : Stands prompt request isKnown
    · exact Or.inl (deriveInput_of_stands hstands)
    · refine Or.inr ?_
      rw [deriveInput_of_not_stands hstands]
      exact startsSlash_trim_slash _
  · intro name hbare hown hrequest hknown hslash hmention
    have hname := requestedName_of_requests hbare hown hrequest
    have hstands : ¬ Stands prompt request isKnown := by
      rintro (hstarts | hstarts | hnone | hunknown)
      · rw [hslash] at hstarts
        cases hstarts
      · exact hmention (mentionsCommand_of_startsWithMention hstarts)
      · rw [hname] at hnone
        exact hbare.1 (String.toList_eq_nil_iff.mp hnone)
      · have hcandidate : String.ofList ('/' :: name.toList) = "/" ++ name := by
          rw [String.ofList_cons, String.ofList_toList]
          rfl
        rw [hname, hcandidate, hknown] at hunknown
        cases hunknown
    rw [deriveInput_of_not_stands hstands, hname, String.ofList_toList]
    exact tokenize_made hbare hslash

/-- A prompt with a slash in the middle, and a quote that is left open before blanks. -/
def newPrompt : String := "  \"My Doc\" @me /x 'it is  "

theorem new_requested :
    Bare "new" ∧ startsSlash "new".toList = false ∧ Requests "new" (some "\t/new ") ∧
      (fun line => line == "/new") ("/" ++ "new") = true ∧
      startsSlash (Text.trimList newPrompt.toList) = false ∧
      ¬ MentionsCommand (Text.trimList newPrompt.toList) ∧
      tokenize (deriveInput newPrompt (some "\t/new ") fun line => line == "/new") =
        ["new", "My Doc", "@me", "/x", "it is"] := by
  have hbare : Bare "new" := by decide +kernel
  have hown : startsSlash "new".toList = false := by decide +kernel
  have hrequest : Requests "new" (some "\t/new ") :=
    @Requests.intro "new" ['\t'] ['/'] [' '] (List.all_eq_true.mp rfl) (Or.inr rfl)
      (List.all_eq_true.mp rfl)
  have hknown : (fun line => line == "/new") ("/" ++ "new") = true := by decide +kernel
  have hslash : startsSlash (Text.trimList newPrompt.toList) = false := by decide +kernel
  have hmention : ¬ MentionsCommand (Text.trimList newPrompt.toList) := by
    rintro ⟨word, gap, rest, hchars, -⟩
    have hhead : (Text.trimList newPrompt.toList).head? = some '"' := by decide +kernel
    rw [hchars] at hhead
    cases hhead
  refine ⟨hbare, hown, hrequest, hknown, hslash, hmention, ?_⟩
  have htokens : tokenize newPrompt = ["My Doc", "@me", "/x", "it is"] := by decide +kernel
  have hkept := (deriveInput_keeps_prompt newPrompt (some "\t/new ") fun line => line == "/new").2.2
    "new" hbare hown hrequest hknown hslash hmention
  rw [hkept, htokens]

end SlashLine.Command
