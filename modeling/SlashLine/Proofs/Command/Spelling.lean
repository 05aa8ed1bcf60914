import SlashLine.Command.Token

/-!
# Spellings of tokens

There are many ways to write a token: each of its characters bare, or in a quoted piece, and between
two tokens there may be any blanks. `Spells` and `Follows` are the rules for writing; they say
nothing about how a text is read. Reading gives the token back whatever comes after it, since what
follows a spelled token is read on from outside quotes.

* `Spells`: the ways to write one token.
* `scanToken_cons_quote` and the four lemmas after it: what is read on from each kind of character.
* `Follows`: the ways to write tokens after another one.
* `scanToken_spelled`: a spelled token is read as far as it goes.
* `scanToken_follows`: the tokens of a text are those that it is written from.
-/

namespace SlashLine.Command

/-! ## Rules for writing -/

/-- A text that spells a token: bare characters, which are neither blank nor quotes, and quoted
pieces, in which the quote around them does not occur. -/
inductive Spells : List Char → List Char → Prop
  | nil : Spells [] []
  | bare {c : Char} {written token : List Char} (hblank : Text.isBlank c = false)
      (hquote : isQuote c = false) (hrest : Spells written token) :
      Spells (c :: written) (c :: token)
  | quoted {quote : Char} {inside written token : List Char} (hquote : isQuote quote = true)
      (hinside : quote ∉ inside) (hrest : Spells written token) :
      Spells (quote :: (inside ++ quote :: written)) (inside ++ token)

theorem Spells.bareToken {token : List Char}
    (h : token.all (fun c => !Text.isBlank c && !isQuote c) = true) : Spells token token := by
  induction token with
  | nil => exact .nil
  | cons c token ih =>
    rw [List.all_cons, Bool.and_eq_true, Bool.and_eq_true, Bool.not_eq_true',
      Bool.not_eq_true'] at h
    obtain ⟨⟨hblank, hquote⟩, hlater⟩ := h
    exact .bare hblank hquote (ih hlater)

theorem Spells.quotedToken {quote : Char} {token : List Char} (hquote : isQuote quote = true)
    (h : quote ∉ token) : Spells (quote :: (token ++ [quote])) token := by
  have hpiece := Spells.quoted hquote h .nil
  rwa [List.append_nil] at hpiece

/-- A token that is read as it is: it is not empty, and there is no blank around it. -/
def Neat (token : String) : Prop := token ≠ "" ∧ Text.trim token = token

instance (token : String) : Decidable (Neat token) := inferInstanceAs (Decidable (_ ∧ _))

/-- A text that spells tokens, each after a gap of blanks. -/
inductive Follows : List Char → List String → Prop
  | nil : Follows [] []
  | cons {gap written rest : List Char} {token : String} {tokens : List String}
      (hgap : ∀ c ∈ gap, Text.isBlank c) (hne : gap ≠ [])
      (hspells : Spells written token.toList) (hrest : Follows rest tokens) :
      Follows (gap ++ (written ++ rest)) (token :: tokens)

/-! ## Reading on -/

theorem isBlank_eq_false_of_isQuote {c : Char} (h : isQuote c = true) :
    Text.isBlank c = false := by
  have hc : c = '"' ∨ c = '\'' := by simpa [isQuote] using h
  rcases hc with rfl | rfl
  · decide
  · decide

theorem isQuote_eq_false_of_isBlank {c : Char} (h : Text.isBlank c = true) :
    isQuote c = false := by
  cases hquote : isQuote c with
  | false => rfl
  | true =>
    rw [isBlank_eq_false_of_isQuote hquote] at h
    cases h

section
variable {c quote : Char} (cs : List Char)

theorem scanToken_cons_quote (hquote : isQuote c = true) :
    scanToken none (c :: cs) = scanToken (some c) cs := by
  rw [scanToken, if_pos hquote]

theorem scanToken_cons_blank (hblank : Text.isBlank c = true) :
    scanToken none (c :: cs) = ([], tokensFrom cs) := by
  rw [scanToken, if_neg (ne_true_of_eq_false (isQuote_eq_false_of_isBlank hblank))]
  exact if_pos hblank

theorem scanToken_cons_bare (hblank : Text.isBlank c = false) (hquote : isQuote c = false) :
    scanToken none (c :: cs) = (c :: (scanToken none cs).1, (scanToken none cs).2) := by
  rw [scanToken, if_neg (ne_true_of_eq_false hquote)]
  exact if_neg (ne_true_of_eq_false hblank)

theorem scanToken_cons_closing :
    scanToken (some quote) (quote :: cs) = scanToken none cs := by
  rw [scanToken, if_pos rfl]

theorem scanToken_cons_inside (hne : c ≠ quote) :
    scanToken (some quote) (c :: cs) =
      (c :: (scanToken (some quote) cs).1, (scanToken (some quote) cs).2) := by
  rw [scanToken, if_neg hne]

end

/-- Inside quotes everything up to the next such quote is part of the token. -/
theorem scanToken_quoted {quote : Char} {inside : List Char} (h : quote ∉ inside)
    (rest : List Char) :
    scanToken (some quote) (inside ++ quote :: rest) =
      (inside ++ (scanToken none rest).1, (scanToken none rest).2) := by
  induction inside with
  | nil => rw [List.nil_append, scanToken_cons_closing, List.nil_append]
  | cons c inside ih =>
    obtain ⟨hne, hlater⟩ : quote ≠ c ∧ quote ∉ inside := by
      simpa only [List.mem_cons, not_or] using h
    rw [List.cons_append, scanToken_cons_inside _ hne.symm, ih hlater, List.cons_append]

/-- A quote that is never closed makes the rest of the line part of the token. -/
theorem scanToken_unclosed {quote : Char} {inside : List Char} (h : quote ∉ inside) :
    scanToken (some quote) inside = (inside, []) := by
  induction inside with
  | nil => rfl
  | cons c inside ih =>
    obtain ⟨hne, hlater⟩ : quote ≠ c ∧ quote ∉ inside := by
      simpa only [List.mem_cons, not_or] using h
    rw [scanToken_cons_inside _ hne.symm, ih hlater]

/-- The scanner reads a spelling as its token, and goes on with what follows. -/
theorem scanToken_spelled {written token : List Char} (h : Spells written token)
    (rest : List Char) :
    scanToken none (written ++ rest) =
      (token ++ (scanToken none rest).1, (scanToken none rest).2) := by
  induction h with
  | nil => rfl
  | @bare c written token hblank hquote hrest ih =>
    rw [List.cons_append, scanToken_cons_bare _ hblank hquote, ih, List.cons_append]
  | @quoted quote inside written token hquote hinside hrest ih =>
    have hsplit : quote :: (inside ++ quote :: written) ++ rest =
        quote :: (inside ++ quote :: (written ++ rest)) := by
      rw [List.cons_append, List.append_assoc, List.cons_append]
    rw [hsplit, scanToken_cons_quote _ hquote, scanToken_quoted hinside, ih,
      ← List.append_assoc]

/-- Blanks before the first token make no difference. -/
theorem tokensFrom_gap {gap : List Char} (h : ∀ c ∈ gap, Text.isBlank c) (rest : List Char) :
    tokensFrom (gap ++ rest) = tokensFrom rest := by
  induction gap with
  | nil => rfl
  | cons c gap ih =>
    have hc : Text.isBlank c = true := h c List.mem_cons_self
    rw [List.cons_append, tokensFrom_cons_blank _ hc (isQuote_eq_false_of_isBlank hc)]
    exact ih fun d hd => h d (List.mem_cons_of_mem c hd)

/-- A gap ends the token before it. -/
theorem scanToken_gap {gap : List Char} (h : ∀ c ∈ gap, Text.isBlank c) (hne : gap ≠ [])
    (rest : List Char) : scanToken none (gap ++ rest) = ([], tokensFrom rest) := by
  obtain ⟨c, gap, rfl⟩ := List.exists_cons_of_ne_nil hne
  rw [List.cons_append, scanToken_cons_blank _ (h c List.mem_cons_self),
    tokensFrom_gap fun d hd => h d (List.mem_cons_of_mem c hd)]

/-! ## Tokens that are written -/

theorem trimList_neat {token : String} (h : Neat token) :
    Text.trimList token.toList = token.toList := by
  have hchars := congrArg String.toList h.2
  rwa [Text.trim, String.toList_ofList] at hchars

theorem keepToken_neat {token : String} (h : Neat token) (later : List (List Char)) :
    keepToken token.toList later = token.toList :: later := by
  have hne : token.toList ≠ [] := fun e => h.1 (String.toList_eq_nil_iff.mp e)
  obtain ⟨c, cs, hcs⟩ := List.exists_cons_of_ne_nil hne
  rw [keepToken, trimList_neat h, hcs]

variable {written rest : List Char} {token : String} {tokens : List String}

/-- A token, spelled at the start of a text, and the tokens after it. -/
theorem tokensFrom_spelled (h : Spells written token.toList) (hneat : Neat token)
    {later : List (List Char)} (hrest : scanToken none rest = ([], later)) :
    tokensFrom (written ++ rest) = token.toList :: later := by
  rw [tokensFrom, scanToken_spelled h rest, hrest, List.append_nil]
  exact keepToken_neat hneat later

/-- Between tokens the scanner has kept nothing, and it reads the rest back one by one. -/
theorem scanToken_follows (h : Follows written tokens) (hneat : ∀ token ∈ tokens, Neat token) :
    scanToken none written = ([], tokens.map String.toList) := by
  induction h with
  | nil => rfl
  | @cons gap written rest token tokens hgap hne hspells hrest ih =>
    have hlater := ih fun t ht => hneat t (List.mem_cons_of_mem token ht)
    rw [scanToken_gap hgap hne, tokensFrom_spelled hspells (hneat token List.mem_cons_self) hlater,
      List.map_cons]

/-! ## The end of what is written -/

/-- The last character of a text is no blank. -/
def EndsInInk (cs : List Char) : Prop := ∃ before c, cs = before ++ [c] ∧ Text.isBlank c = false

theorem EndsInInk.append {cs : List Char} (h : EndsInInk cs) (before : List Char) :
    EndsInInk (before ++ cs) := by
  obtain ⟨init, c, rfl, hc⟩ := h
  exact ⟨before ++ init, c, (List.append_assoc _ _ _).symm, hc⟩

theorem EndsInInk.trimList {c : Char} {cs : List Char} (hc : Text.isBlank c = false)
    (h : EndsInInk (c :: cs)) : Text.trimList (c :: cs) = c :: cs := by
  obtain ⟨before, d, heq, hd⟩ := h
  rw [heq]
  cases before with
  | nil =>
    rw [List.nil_append, Text.trimList, Text.trimStart_cons_of_not_isBlank hd,
      Text.trimEnd_cons_of_not_isBlank hd]
    rfl
  | cons c' before =>
    obtain ⟨rfl, -⟩ := List.cons.inj heq
    exact Text.trimList_append_of_not_isBlank before hc hd

/-- A spelled token ends in a bare character or in a quote. -/
theorem Spells.endsInInk {written token : List Char} (h : Spells written token)
    (hne : written ≠ []) : EndsInInk written := by
  induction h with
  | nil => exact absurd rfl hne
  | @bare c written token hblank hquote hrest ih =>
    by_cases hlast : written = []
    · subst hlast
      exact ⟨[], c, rfl, hblank⟩
    · exact (ih hlast).append [c]
  | @quoted quote inside written token hquote hinside hrest ih =>
    have hsplit :
        quote :: (inside ++ quote :: written) = (quote :: inside ++ [quote]) ++ written := by
      rw [List.append_assoc, List.singleton_append, List.cons_append]
    by_cases hlast : written = []
    · subst hlast
      exact ⟨quote :: inside, quote, rfl, isBlank_eq_false_of_isQuote hquote⟩
    · rw [hsplit]
      exact (ih hlast).append _

theorem Spells.written_ne_nil {written token : List Char} (h : Spells written token)
    (hne : token ≠ []) : written ≠ [] := by
  cases h with
  | nil => exact hne
  | bare hblank hquote hrest => exact List.cons_ne_nil _ _
  | quoted hquote hinside hrest => exact List.cons_ne_nil _ _

theorem Neat.endsInInk {written : List Char} {token : String} (h : Neat token)
    (hspells : Spells written token.toList) : EndsInInk written :=
  hspells.endsInInk (hspells.written_ne_nil fun e => h.1 (String.toList_eq_nil_iff.mp e))

/-- Neat tokens spelled out end in something that can be seen, so trimming the line takes nothing
from the last of them. -/
theorem Follows.endsInInk (h : Follows written tokens) (hneat : ∀ token ∈ tokens, Neat token) :
    written = [] ∨ EndsInInk written := by
  induction h with
  | nil => exact Or.inl rfl
  | @cons gap written rest token tokens hgap hne hspells hrest ih =>
    refine Or.inr (EndsInInk.append ?_ gap)
    have htoken : EndsInInk written := (hneat token List.mem_cons_self).endsInInk hspells
    rcases ih fun t ht => hneat t (List.mem_cons_of_mem token ht) with hnil | hink
    · rw [hnil, List.append_nil]
      exact htoken
    · exact hink.append written

/-! ## Tokens without quotes -/

/-- A token that is written as it is: there is something in it, and no blanks or quotes. -/
def Bare (token : String) : Prop :=
  token ≠ "" ∧ token.toList.all (fun c => !Text.isBlank c && !isQuote c) = true

instance (token : String) : Decidable (Bare token) := inferInstanceAs (Decidable (_ ∧ _))

theorem Bare.spells (h : Bare token) : Spells token.toList token.toList := Spells.bareToken h.2

/-- The first character of a bare token. -/
theorem Bare.exists_cons (h : Bare token) :
    ∃ c cs, token.toList = c :: cs ∧ Text.isBlank c = false := by
  have hne : token.toList ≠ [] := fun hnil => h.1 (String.toList_eq_nil_iff.mp hnil)
  obtain ⟨c, cs, hcs⟩ := List.exists_cons_of_ne_nil hne
  have hall := h.2
  rw [hcs, List.all_cons] at hall
  simp only [Bool.and_eq_true, Bool.not_eq_true'] at hall
  exact ⟨c, cs, hcs, hall.1.1⟩

theorem Bare.neat (h : Bare token) : Neat token := by
  obtain ⟨c, cs, hcs, hblank⟩ := h.exists_cons
  have hink := h.spells.endsInInk fun hnil => h.1 (String.toList_eq_nil_iff.mp hnil)
  rw [hcs] at hink
  refine ⟨h.1, ?_⟩
  rw [Text.trim, hcs, hink.trimList hblank, ← hcs, String.ofList_toList]

end SlashLine.Command
