import SlashLine.Proofs.Command.Spelling

/-!
# Command text put together

Every token can be written, and however tokens are written and joined by blanks, the same tokens are
read. Text after a blank is read by itself, provided that no quote is open there: what came before
makes no difference to it, and it makes none to what came before. Blanks at the end of a text belong
to no token, not even behind a quote that is never closed, and so it does not matter that they are
cut off before anything is read.

* `Listed`: the texts that tokens are written as.
* `Closed`: the texts that leave no quote open, as a rule for writing them.
* `tokensFrom_trimEnd`, `tokenize_slash`: cutting blanks off an end loses nothing.
* `tokensFrom_append`: the tokens before a blank and those after it.
* `tokenize_listed`: every list of neat tokens is written in some way and read back from every way.
* `tokenize_append`: command text is read part by part.
-/

namespace SlashLine.Command

/-! ## Blanks at the end -/

variable {cs written rest : List Char} {token : String} {tokens : List String}

/-- Blanks at the end of a token make no difference to what is kept of it. -/
theorem keepToken_append_blanks (token : List Char) {extra : List Char}
    (h : ∀ c ∈ extra, Text.isBlank c) (later : List (List Char)) :
    keepToken (token ++ extra) later = keepToken token later := by
  rw [keepToken, keepToken, Text.trimList_append_blanks token h]

/-- Where a quote is open, blanks are read as part of the token. -/
theorem scanToken_blanks {quote? : Option Char} (hquote : ∀ quote ∈ quote?, isQuote quote = true)
    {gap : List Char} (hgap : ∀ c ∈ gap, Text.isBlank c) :
    ∃ extra, (∀ c ∈ extra, Text.isBlank c) ∧ scanToken quote? gap = (extra, []) := by
  cases quote? with
  | none =>
    refine ⟨[], fun c hc => absurd hc List.not_mem_nil, ?_⟩
    cases gap with
    | nil => rfl
    | cons c gap =>
      have hlater := tokensFrom_gap (fun d hd => hgap d (List.mem_cons_of_mem c hd)) []
      rw [List.append_nil] at hlater
      rw [scanToken_cons_blank _ (hgap c List.mem_cons_self), hlater]
      rfl
  | some quote =>
    refine ⟨gap, hgap, scanToken_unclosed fun hmem => ?_⟩
    have hink := isBlank_eq_false_of_isQuote (hquote quote rfl)
    rw [hgap quote hmem] at hink
    cases hink

/-- Blanks after a text end its last token, or go on with it where a quote is open. -/
theorem scanToken_append_blanks {quote? : Option Char}
    (hquote : ∀ quote ∈ quote?, isQuote quote = true) (cs : List Char) {gap : List Char}
    (hgap : ∀ c ∈ gap, Text.isBlank c) :
    ∃ extra, (∀ c ∈ extra, Text.isBlank c) ∧
      scanToken quote? (cs ++ gap) =
        ((scanToken quote? cs).1 ++ extra, (scanToken quote? cs).2) := by
  have hnone : ∀ quote ∈ (none : Option Char), isQuote quote = true := by
    intro quote h
    cases h
  induction cs generalizing quote? with
  | nil =>
    have hnil : scanToken quote? [] = ([], []) := by cases quote? <;> rfl
    rw [hnil]
    exact scanToken_blanks hquote hgap
  | cons c cs ih =>
    rw [List.cons_append]
    cases quote? with
    | none =>
      obtain ⟨extra, hextra, hscan⟩ := ih hnone
      cases hc : isQuote c with
      | true =>
        rw [scanToken_cons_quote _ hc, scanToken_cons_quote _ hc]
        exact ih fun quote h => Option.some.inj h ▸ hc
      | false =>
        cases hblank : Text.isBlank c with
        | true =>
          refine ⟨[], fun d hd => absurd hd List.not_mem_nil, ?_⟩
          rw [scanToken_cons_blank _ hblank, scanToken_cons_blank _ hblank, tokensFrom, hscan]
          exact congrArg _ (keepToken_append_blanks _ hextra _)
        | false =>
          refine ⟨extra, hextra, ?_⟩
          rw [scanToken_cons_bare _ hblank hc, scanToken_cons_bare _ hblank hc, hscan,
            List.cons_append]
    | some quote =>
      by_cases hclosing : c = quote
      · rw [hclosing, scanToken_cons_closing, scanToken_cons_closing]
        exact ih hnone
      · obtain ⟨extra, hextra, hscan⟩ := ih hquote
        refine ⟨extra, hextra, ?_⟩
        rw [scanToken_cons_inside _ hclosing, scanToken_cons_inside _ hclosing, hscan,
          List.cons_append]

/-- Blanks at the end of a text make no difference to its tokens. -/
theorem tokensFrom_trimEnd (cs : List Char) : tokensFrom (Text.trimEnd cs) = tokensFrom cs := by
  obtain ⟨gap, hgap, hcs⟩ := Text.exists_eq_trimEnd_append cs
  obtain ⟨extra, hextra, hscan⟩ :=
    scanToken_append_blanks (fun quote (h : quote ∈ none) => nomatch h) (Text.trimEnd cs) hgap
  rw [← hcs] at hscan
  rw [tokensFrom, tokensFrom, hscan]
  exact (keepToken_append_blanks _ hextra _).symm

theorem trimList_slash (text : String) :
    Text.trimList ("/" ++ text).toList = '/' :: Text.trimEnd text.toList := by
  have hslash : Text.isBlank '/' = false := by decide
  have hchars : ("/" ++ text).toList = '/' :: text.toList := by
    rw [String.toList_append]
    rfl
  rw [hchars, Text.trimList, Text.trimStart_cons_of_not_isBlank hslash,
    Text.trimEnd_cons_of_not_isBlank hslash]

/-- What is read of a text after a slash. No blank is lost of it that would matter. -/
theorem tokenize_slash (text : String) :
    tokenize ("/" ++ text) = (tokensFrom text.toList).map String.ofList := by
  rw [tokenize, trimList_slash, dropSlash, tokensFrom_trimEnd]

/-! ## Writing -/

/-- Texts that tokens are written as, one after the other, with a gap of blanks between two. -/
inductive Listed : List Char → List String → Prop
  | nil : Listed [] []
  | cons {written rest : List Char} {token : String} {tokens : List String}
      (hspells : Spells written token.toList) (hrest : Follows rest tokens) :
      Listed (written ++ rest) (token :: tokens)

/-- A character is written in the quotes that it is not. -/
theorem exists_spells (token : List Char) : ∃ written, Spells written token := by
  induction token with
  | nil => exact ⟨[], .nil⟩
  | cons c token ih =>
    obtain ⟨written, hwritten⟩ := ih
    by_cases hc : c = '"'
    · refine ⟨_, @Spells.quoted '\'' [c] written token (by decide) ?_ hwritten⟩
      rw [hc]
      decide
    · refine ⟨_, @Spells.quoted '"' [c] written token (by decide) ?_ hwritten⟩
      exact fun hmem => hc (List.mem_singleton.mp hmem).symm

/-- Every list of tokens can be spelled out with a blank before each. -/
theorem exists_follows (tokens : List String) : ∃ written, Follows written tokens := by
  have hspace : ∀ c ∈ [' '], Text.isBlank c := List.all_eq_true.mp rfl
  induction tokens with
  | nil => exact ⟨[], .nil⟩
  | cons token tokens ih =>
    obtain ⟨rest, hrest⟩ := ih
    obtain ⟨written, hwritten⟩ := exists_spells token.toList
    exact ⟨_, .cons hspace (List.cons_ne_nil _ _) hwritten hrest⟩

theorem exists_listed (tokens : List String) : ∃ written, Listed written tokens := by
  cases tokens with
  | nil => exact ⟨[], .nil⟩
  | cons token tokens =>
    obtain ⟨written, hwritten⟩ := exists_spells token.toList
    obtain ⟨rest, hrest⟩ := exists_follows tokens
    exact ⟨_, .cons hwritten hrest⟩

/-- Neat tokens are read back from every way of listing them. -/
theorem tokensFrom_listed (h : Listed written tokens) (hneat : ∀ token ∈ tokens, Neat token) :
    tokensFrom written = tokens.map String.toList := by
  cases h with
  | nil => rfl
  | @cons written rest token tokens hspells hrest =>
    have hlater := scanToken_follows hrest fun t ht => hneat t (List.mem_cons_of_mem token ht)
    rw [tokensFrom_spelled hspells (hneat token List.mem_cons_self) hlater, List.map_cons]

/-- Quoting is complete: all tokens that can be read at all can be written, and every way to write
them, with a slash in front, is read as those tokens. -/
theorem tokenize_listed (hneat : ∀ token ∈ tokens, Neat token) :
    (∃ written, Listed written tokens) ∧
      ∀ written, Listed written tokens →
        tokenize ("/" ++ String.ofList written) = tokens := by
  refine ⟨exists_listed tokens, fun written hwritten => ?_⟩
  have hback : String.ofList ∘ String.toList = id := funext fun s => String.ofList_toList
  rw [tokenize_slash, String.toList_ofList, tokensFrom_listed hwritten hneat, List.map_map, hback,
    List.map_id]

/-- A token with both quotes, one with a blank between quotes, and one of a slash and a dash. -/
def mixedTokens : List String := ["say", "it's \"so\"", "' '", "/-"]

/-- One of the ways to write them. -/
def mixedText : String := "s'a'y \t\"it's \"'\"so\"' \"' '\" /\"\"-"

theorem mixed_read_back :
    (∀ token ∈ mixedTokens, Neat token) ∧ Listed mixedText.toList mixedTokens ∧
      tokenize ("/" ++ String.ofList mixedText.toList) = mixedTokens := by
  have hneat : ∀ token ∈ mixedTokens, Neat token := by decide +kernel
  have hblank : ∀ {gap : List Char}, gap.all Text.isBlank = true → ∀ c ∈ gap, Text.isBlank c :=
    List.all_eq_true.mp
  have hsay : Spells ['s', '\'', 'a', '\'', 'y'] "say".toList :=
    .bare (by decide) (by decide)
      (@Spells.quoted '\'' ['a'] _ _ (by decide) (by decide) (.bareToken rfl))
  have hquotes : Spells _ "it's \"so\"".toList :=
    @Spells.quoted '"' ['i', 't', '\'', 's', ' '] _ _ (by decide) (by decide)
      (@Spells.quotedToken '\'' ['"', 's', 'o', '"'] (by decide) (by decide))
  have hslash : Spells ['/', '"', '"', '-'] "/-".toList :=
    .bare (by decide) (by decide) (@Spells.quoted '"' [] _ _ (by decide) (by decide)
      (.bareToken rfl))
  have hrest : Follows _ ["it's \"so\"", "' '", "/-"] :=
    @Follows.cons [' ', '\t'] _ _ _ _ (hblank rfl) (by decide) hquotes
      (@Follows.cons [' '] _ _ _ _ (hblank rfl) (by decide)
        (@Spells.quotedToken '"' _ (by decide) (by decide))
        (@Follows.cons [' '] _ _ _ _ (hblank rfl) (by decide) hslash .nil))
  have hlisted : Listed mixedText.toList mixedTokens :=
    Eq.mp (congrArg (Listed · mixedTokens) (by decide +kernel)) (Listed.cons hsay hrest)
  exact ⟨hneat, hlisted, (tokenize_listed hneat).2 _ hlisted⟩

/-! ## Reading part by part -/

/-- Every quote that is opened in the text is closed in it. -/
inductive Closed : List Char → Prop
  | nil : Closed []
  | plain {c : Char} {rest : List Char} (hquote : isQuote c = false) (hrest : Closed rest) :
      Closed (c :: rest)
  | quoted {quote : Char} {inside rest : List Char} (hquote : isQuote quote = true)
      (hinside : quote ∉ inside) (hrest : Closed rest) :
      Closed (quote :: (inside ++ quote :: rest))

/-- A spelling of a token leaves no quote open. -/
theorem Spells.closed {token : List Char} (h : Spells written token) : Closed written := by
  induction h with
  | nil => exact .nil
  | bare hblank hquote hrest ih => exact .plain hquote ih
  | quoted hquote hinside hrest ih => exact .quoted hquote hinside ih

theorem keepToken_append (token : List Char) (later more : List (List Char)) :
    keepToken token (later ++ more) = keepToken token later ++ more := by
  unfold keepToken
  split
  · rfl
  · rfl

/-- The first blank after a text that leaves no quote open ends the last of its tokens. -/
theorem scanToken_append (h : Closed cs) {w : Char} (hw : Text.isBlank w = true)
    (rest : List Char) :
    scanToken none (cs ++ w :: rest) =
      ((scanToken none cs).1, (scanToken none cs).2 ++ tokensFrom rest) := by
  induction h with
  | nil => exact scanToken_cons_blank rest hw
  | @plain c cs hquote hrest ih =>
    rw [List.cons_append]
    cases hblank : Text.isBlank c with
    | true =>
      rw [scanToken_cons_blank _ hblank, scanToken_cons_blank _ hblank, tokensFrom, ih]
      exact congrArg _ (keepToken_append _ _ _)
    | false => rw [scanToken_cons_bare _ hblank hquote, scanToken_cons_bare _ hblank hquote, ih]
  | @quoted quote inside cs hquote hinside hrest ih =>
    rw [List.cons_append, List.append_assoc, List.cons_append, scanToken_cons_quote _ hquote,
      scanToken_cons_quote _ hquote, scanToken_quoted hinside, scanToken_quoted hinside, ih]

/-- After a text with no open quote a blank ends the last token, so the tokens of what follows are
those it has on its own. -/
theorem tokensFrom_append (h : Closed cs) {w : Char} (hw : Text.isBlank w = true)
    (rest : List Char) : tokensFrom (cs ++ w :: rest) = tokensFrom cs ++ tokensFrom rest := by
  rw [tokensFrom, scanToken_append h hw]
  exact keepToken_append _ _ _

/-- Command text is read part by part: what stands before a blank outside quotes, and what stands
after it, each with a slash in front. -/
theorem tokenize_append {a : String} (ha : Closed a.toList) {w : Char}
    (hw : Text.isBlank w = true) (b : String) :
    tokenize ("/" ++ a ++ String.singleton w ++ b) =
      tokenize ("/" ++ a) ++ tokenize ("/" ++ b) := by
  have hchars : (a ++ String.singleton w ++ b).toList = a.toList ++ w :: b.toList := by simp
  have hassoc : "/" ++ a ++ String.singleton w ++ b = "/" ++ (a ++ String.singleton w ++ b) := by
    simp only [String.append_assoc]
  rw [hassoc, tokenize_slash, tokenize_slash, tokenize_slash, hchars, tokensFrom_append ha hw,
    List.map_append]

/-- The second part starts with a slash and leaves a quote open, with a blank at the end. -/
theorem open_quote_appended :
    Closed "say \"it's\" ".toList ∧ Text.isBlank '\t' = true ∧
      tokenize ("/" ++ "say \"it's\" " ++ String.singleton '\t' ++ "/now 'a \"b ") =
        ["say", "it's", "/now", "a \"b"] := by
  have hclosed : Closed "say \"it's\" ".toList :=
    .plain (by decide) (.plain (by decide) (.plain (by decide) (.plain (by decide)
      (@Closed.quoted '"' ['i', 't', '\'', 's'] _ (by decide) (by decide)
        (.plain (by decide) .nil)))))
  have hblank : Text.isBlank '\t' = true := by decide
  refine ⟨hclosed, hblank, (tokenize_append hclosed hblank "/now 'a \"b ").trans ?_⟩
  decide +kernel

end SlashLine.Command
