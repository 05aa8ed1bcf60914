import SlashLine.Proofs.Command.Reading

/-!
# Texts that look like commands

A text looks like a command if it starts with a slash, goes on with something that is not blank, and
is no comment, which starts with two slashes. Looking does not take quotes off. Reading does, and so
it finds no token in a text such as `/""`, which looks like a command all the same.

* `Hollow`: the texts that spell no token, as a rule for writing them.
* `tokensFrom_eq_nil_iff`: no token is read from a text exactly if it is hollow.
* `exists_parse_iff`, `parse_eq_empty_iff`: which texts are read, and which are called empty.
* `not_detectionAgrees`: there are texts that look like commands and are none.
* `isCommand_iff`: those are the only ones, and no command is overlooked.
-/

namespace SlashLine.Command

/-! ## Texts without tokens -/

/-- A text that spells nothing: blanks, and quoted pieces with nothing but blanks in them, the last
of which may be left open. -/
inductive Hollow : List Char → Prop
  | nil : Hollow []
  | blank {c : Char} {rest : List Char} (hblank : Text.isBlank c = true) (hrest : Hollow rest) :
      Hollow (c :: rest)
  | quoted {quote : Char} {inside rest : List Char} (hquote : isQuote quote = true)
      (hinside : ∀ c ∈ inside, Text.isBlank c = true) (hrest : Hollow rest) :
      Hollow (quote :: (inside ++ quote :: rest))
  | unclosed {quote : Char} {inside : List Char} (hquote : isQuote quote = true)
      (hinside : ∀ c ∈ inside, Text.isBlank c = true) : Hollow (quote :: inside)

variable {cs inside rest : List Char} {quote : Char}

theorem hollow_of_blank (h : ∀ c ∈ cs, Text.isBlank c = true) : Hollow cs := by
  induction cs with
  | nil => exact .nil
  | cons c cs ih =>
    exact .blank (h c List.mem_cons_self) (ih fun d hd => h d (List.mem_cons_of_mem c hd))

theorem exists_ink_of_not_hollow (h : ¬ Hollow cs) : ∃ c ∈ cs, Text.isBlank c = false := by
  cases hall : cs.all Text.isBlank with
  | true => exact absurd (hollow_of_blank (List.all_eq_true.mp hall)) h
  | false =>
    obtain ⟨c, hc, hink⟩ := List.all_eq_false.mp hall
    exact ⟨c, hc, eq_false_of_ne_true hink⟩

theorem not_mem_of_blank {c : Char} (hink : Text.isBlank c = false)
    (hinside : ∀ c ∈ inside, Text.isBlank c = true) : c ∉ inside := by
  intro hmem
  rw [hinside c hmem] at hink
  cases hink

/-- Whatever is no blank in a hollow text is a quote. -/
theorem Hollow.isQuote_of_not_isBlank (h : Hollow cs) {c : Char} (hc : c ∈ cs)
    (hink : Text.isBlank c = false) : isQuote c = true := by
  induction h with
  | nil => cases hc
  | blank hblank hrest ih =>
    rcases List.mem_cons.mp hc with rfl | hlater
    · rw [hblank] at hink
      cases hink
    · exact ih hlater
  | quoted hquote hinside hrest ih =>
    rcases List.mem_cons.mp hc with rfl | hlater
    · exact hquote
    · rcases List.mem_append.mp hlater with hmem | hclosed
      · exact absurd hmem (not_mem_of_blank hink hinside)
      · rcases List.mem_cons.mp hclosed with rfl | hmem
        · exact hquote
        · exact ih hmem
  | unclosed hquote hinside =>
    rcases List.mem_cons.mp hc with rfl | hlater
    · exact hquote
    · exact absurd hlater (not_mem_of_blank hink hinside)

/-- What is read of a token is blank, and no token comes after it. -/
def Spent (scan : List Char × List (List Char)) : Prop :=
  (∀ c ∈ scan.1, Text.isBlank c = true) ∧ scan.2 = []

/-- No token is kept exactly if there is nothing but blanks in the last one and none comes after
it. -/
theorem keepToken_eq_nil_iff {token : List Char} {later : List (List Char)} :
    keepToken token later = [] ↔ (∀ c ∈ token, Text.isBlank c = true) ∧ later = [] := by
  rw [← Text.trimList_eq_nil_iff, keepToken]
  split
  · next hnil => simp [hnil]
  · next c cs hcons => simp [hcons]

theorem tokensFrom_eq_nil_iff_spent : tokensFrom cs = [] ↔ Spent (scanToken none cs) :=
  keepToken_eq_nil_iff

theorem Hollow.spent (h : Hollow cs) : Spent (scanToken none cs) := by
  induction h with
  | nil => exact ⟨fun c hc => absurd hc List.not_mem_nil, rfl⟩
  | @blank c rest hblank hrest ih =>
    rw [scanToken_cons_blank _ hblank, tokensFrom_eq_nil_iff_spent.mpr ih]
    exact ⟨fun d hd => absurd hd List.not_mem_nil, rfl⟩
  | @quoted quote inside rest hquote hinside hrest ih =>
    rw [scanToken_cons_quote _ hquote,
      scanToken_quoted (not_mem_of_blank (isBlank_eq_false_of_isQuote hquote) hinside)]
    refine ⟨fun c hc => ?_, ih.2⟩
    rcases List.mem_append.mp hc with hmem | hlater
    · exact hinside c hmem
    · exact ih.1 c hlater
  | @unclosed quote inside hquote hinside =>
    rw [scanToken_cons_quote _ hquote,
      scanToken_unclosed (not_mem_of_blank (isBlank_eq_false_of_isQuote hquote) hinside)]
    exact ⟨hinside, rfl⟩

/-- The induction follows the scanner over its two states: outside quotes, and inside of a span of
which some blanks have been read. -/
theorem hollow_of_spent (cs : List Char) :
    (Spent (scanToken none cs) → Hollow cs) ∧
      ∀ quote before, isQuote quote = true → (∀ c ∈ before, Text.isBlank c = true) →
        Spent (scanToken (some quote) cs) → Hollow (quote :: (before ++ cs)) := by
  induction cs with
  | nil =>
    refine ⟨fun _ => .nil, fun quote before hquote hbefore _ => ?_⟩
    rw [List.append_nil]
    exact .unclosed hquote hbefore
  | cons c cs ih =>
    refine ⟨fun hspent => ?_, fun quote before hquote hbefore hspent => ?_⟩
    · cases hquote : isQuote c with
      | true =>
        rw [scanToken_cons_quote _ hquote] at hspent
        exact ih.2 c [] hquote (fun d hd => absurd hd List.not_mem_nil) hspent
      | false =>
        cases hblank : Text.isBlank c with
        | true =>
          rw [scanToken_cons_blank _ hblank] at hspent
          exact .blank hblank (ih.1 (tokensFrom_eq_nil_iff_spent.mp hspent.2))
        | false =>
          rw [scanToken_cons_bare _ hblank hquote] at hspent
          have hink := hspent.1 c List.mem_cons_self
          rw [hblank] at hink
          cases hink
    · by_cases hclosed : c = quote
      · rw [hclosed, scanToken_cons_closing] at hspent
        rw [hclosed]
        exact .quoted hquote hbefore (ih.1 hspent)
      · rw [scanToken_cons_inside _ hclosed] at hspent
        have hmore : ∀ d ∈ before ++ [c], Text.isBlank d = true := by
          intro d hd
          rcases List.mem_append.mp hd with hmem | hlast
          · exact hbefore d hmem
          · rw [List.mem_singleton.mp hlast]
            exact hspent.1 c List.mem_cons_self
        have hlater := ih.2 quote (before ++ [c]) hquote hmore
          ⟨fun d hd => hspent.1 d (List.mem_cons_of_mem c hd), hspent.2⟩
        rwa [List.append_assoc, List.singleton_append] at hlater

/-- There are no tokens exactly if there is nothing but blanks and quotes around blanks. -/
theorem tokensFrom_eq_nil_iff : tokensFrom cs = [] ↔ Hollow cs :=
  ⟨fun h => (hollow_of_spent cs).1 (tokensFrom_eq_nil_iff_spent.mp h),
    fun h => tokensFrom_eq_nil_iff_spent.mpr h.spent⟩

/-! ## Texts that are read -/

variable {catalog : Catalog} {input : String}

theorem startsSlash_iff : startsSlash cs = true ↔ ∃ rest, cs = '/' :: rest := by
  cases cs with
  | nil => simp [startsSlash]
  | cons c cs => simp [startsSlash]

/-- The tokens of a line are those after its slash, without the blanks around it. -/
theorem tokenize_trim (h : Text.trimList input.toList = '/' :: rest) :
    tokenize (Text.trim input) = (tokensFrom rest).map String.ofList := by
  rw [tokenize, Text.trim, String.toList_ofList, Text.trimList_trimList, h, dropSlash]

/-- A line parses exactly if it starts with a slash and something stands after that. -/
theorem exists_parse_iff :
    (∃ parsed, parse catalog input = .ok parsed) ↔
      ∃ rest, Text.trimList input.toList = '/' :: rest ∧ ¬ Hollow rest := by
  constructor
  · rintro ⟨parsed, hparse⟩
    obtain ⟨hslash, command, later, htokens, -⟩ := parse_eq_ok_iff.mp hparse
    obtain ⟨rest, htrim⟩ := startsSlash_iff.mp hslash
    refine ⟨rest, htrim, fun hhollow => ?_⟩
    rw [tokenize_trim htrim, tokensFrom_eq_nil_iff.mpr hhollow] at htokens
    cases htokens
  · rintro ⟨rest, htrim, hsolid⟩
    obtain ⟨token, later, htokens⟩ :=
      List.exists_cons_of_ne_nil fun hnil => hsolid (tokensFrom_eq_nil_iff.mp hnil)
    refine ⟨_, parse_eq_ok_iff.mpr ⟨startsSlash_iff.mpr ⟨rest, htrim⟩, String.ofList token,
      later.map String.ofList, ?_, rfl⟩⟩
    rw [tokenize_trim htrim, htokens, List.map_cons]

/-- The complaint that a command is empty is made exactly where a slash has no token after it. -/
theorem parse_eq_empty_iff :
    parse catalog input = .error .empty ↔
      ∃ rest, Text.trimList input.toList = '/' :: rest ∧ Hollow rest := by
  constructor
  · intro h
    unfold parse at h
    dsimp only at h
    split at h
    · cases h
    · next hslash =>
      split at h
      · next hnone =>
        obtain ⟨rest, htrim⟩ := startsSlash_iff.mp (by simpa using hslash)
        rw [← Text.trim, tokenize_trim htrim] at hnone
        exact ⟨rest, htrim, tokensFrom_eq_nil_iff.mp (List.map_eq_nil_iff.mp hnone)⟩
      · cases h
  · rintro ⟨rest, htrim, hhollow⟩
    have hslash := startsSlash_iff.mpr ⟨rest, htrim⟩
    have hnone := tokenize_trim htrim
    rw [tokensFrom_eq_nil_iff.mpr hhollow, Text.trim, List.map_nil] at hnone
    unfold parse
    simp only [hslash, hnone, Bool.not_true, Bool.false_eq_true, if_false]

/-! ## Texts that look like commands -/

/-- The text starts with two slashes. -/
def IsComment (input : String) : Prop := ['/', '/'] <+: Text.trimList input.toList

/-- The text has a slash, and after it only blanks and at least one quote, with nothing but blanks
inside of quotes. -/
def QuotesBlanks (input : String) : Prop :=
  ∃ rest, Text.trimList input.toList = '/' :: rest ∧ Hollow rest ∧ ∃ c ∈ rest, isQuote c = true

/-- The texts that look like commands are those that are read, comments apart. -/
def DetectionAgrees : Prop :=
  ∀ (catalog : Catalog) (input : String),
    isCommand input = true ↔ ¬ IsComment input ∧ ∃ parsed, parse catalog input = .ok parsed

/-- Detection fails to agree at two quotes with nothing in them: this looks like a command, and is
called empty when it is read. -/
theorem not_detectionAgrees :
    isCommand "/\"\"" = true ∧ (∀ catalog, parse catalog "/\"\"" = .error .empty) ∧
      ¬ DetectionAgrees := by
  have hlooks : isCommand "/\"\"" = true := by decide +kernel
  have hempty (catalog : Catalog) : parse catalog "/\"\"" = .error .empty := by
    refine parse_eq_empty_iff.mpr ⟨['"', '"'], by decide +kernel, ?_⟩
    exact @Hollow.quoted '"' [] [] (by decide) (fun c hc => absurd hc List.not_mem_nil) .nil
  refine ⟨hlooks, hempty, fun hagrees => ?_⟩
  obtain ⟨-, parsed, hparse⟩ := (hagrees {} "/\"\"").mp hlooks
  rw [hempty] at hparse
  cases hparse

/-- A line looks like a command if it is no comment and anything that can be seen stands after its
slash, be it a quote. -/
theorem isCommand_eq_true_iff :
    isCommand input = true ↔ ¬ IsComment input ∧
      ∃ rest, Text.trimList input.toList = '/' :: rest ∧ ∃ c ∈ rest, Text.isBlank c = false := by
  unfold isCommand IsComment
  split
  · next rest htrim => simp [htrim]
  · next rest hsecond htrim =>
    have hcomment : ¬ ['/', '/'] <+: '/' :: rest := by
      rintro ⟨later, heq⟩
      exact hsecond later (List.cons.inj heq).2.symm
    rw [htrim]
    simp [hcomment]
  · next hslash =>
    refine iff_of_false Bool.false_ne_true ?_
    rintro ⟨-, rest, htrim, -⟩
    exact hslash rest htrim

/-- A text looks like a command exactly if it is no comment and either is read as a command, or
called empty because after its slash there are only blanks and quotes around blanks. -/
theorem isCommand_iff (catalog : Catalog) (input : String) :
    isCommand input = true ↔
      ¬ IsComment input ∧
        ((∃ parsed, parse catalog input = .ok parsed) ∨
          parse catalog input = .error .empty ∧ QuotesBlanks input) := by
  rw [isCommand_eq_true_iff]
  refine and_congr_right fun _ => ?_
  rw [exists_parse_iff, parse_eq_empty_iff]
  constructor
  · rintro ⟨rest, htrim, c, hc, hink⟩
    by_cases hhollow : Hollow rest
    · have hquote := hhollow.isQuote_of_not_isBlank hc hink
      exact Or.inr ⟨⟨rest, htrim, hhollow⟩, rest, htrim, hhollow, c, hc, hquote⟩
    · exact Or.inl ⟨rest, htrim, hhollow⟩
  · rintro (⟨rest, htrim, hsolid⟩ | ⟨-, rest, htrim, -, c, hc, hquote⟩)
    · exact ⟨rest, htrim, exists_ink_of_not_hollow hsolid⟩
    · exact ⟨rest, htrim, c, hc, isBlank_eq_false_of_isQuote hquote⟩

end SlashLine.Command
