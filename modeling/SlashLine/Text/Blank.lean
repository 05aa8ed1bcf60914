/-!
# Blank characters and trimming

Which characters separate words, and a text without the blanks around it.

* `trimList_eq_nil_iff`: a text is trimmed away exactly when it is blank throughout.
* `trimList_append_of_not_isBlank`: a text with no blank at either end is left as it is.
* `trimList_append_of_blank`: blanks around a text make no difference.
* `trimList_append_blanks`, `exists_eq_trimEnd_append`: what is trimmed off an end is blank.
* `trimList_trimList`, `trim_trim`: what is trimmed stays as it is.
-/

namespace SlashLine.Text

/-- The characters of the Unicode property `White_Space`, and the four ASCII separators from
U+001C to U+001F. -/
def isBlank (c : Char) : Bool :=
  let n := c.toNat
  if n < 0x80 then n == 0x20 || (0x09 ≤ n && n ≤ 0x0d) || (0x1c ≤ n && n ≤ 0x1f)
  else
    n == 0x85 || n == 0xa0 || n == 0x1680 || (0x2000 ≤ n && n ≤ 0x200a) ||
    n == 0x2028 || n == 0x2029 || n == 0x202f || n == 0x205f || n == 0x3000

/-- A text without the blanks before it. -/
def trimStart (cs : List Char) : List Char := cs.dropWhile isBlank

/-- A text without the blanks after it. -/
def trimEnd : List Char → List Char
  | [] => []
  | c :: cs =>
    match trimEnd cs with
    | [] => if isBlank c then [] else [c]
    | d :: ds => c :: d :: ds

/-- A text without the blanks before and after it. -/
def trimList (cs : List Char) : List Char := trimEnd (trimStart cs)

/-- A text without the blanks before and after it. -/
def trim (s : String) : String := String.ofList (trimList s.toList)

/-- A text that holds nothing but blanks. -/
def allBlank (s : String) : Bool := s.toList.all isBlank

/-! ## What trimming keeps -/

theorem trimEnd_eq_nil_iff {cs : List Char} : trimEnd cs = [] ↔ ∀ c ∈ cs, isBlank c := by
  induction cs with
  | nil => simp [trimEnd]
  | cons c cs ih =>
    rw [trimEnd]
    cases h : trimEnd cs with
    | nil =>
      by_cases hc : isBlank c
      · simpa [hc] using ih.1 h
      · simp [hc]
    | cons d ds =>
      have : ¬ ∀ c ∈ cs, isBlank c := fun hall => by simp [ih.2 hall] at h
      simp only [List.mem_cons, forall_eq_or_imp, reduceCtorEq, false_iff, not_and]
      exact fun _ => this

theorem trimEnd_cons_of_not_isBlank {c : Char} {cs : List Char} (hc : isBlank c = false) :
    trimEnd (c :: cs) = c :: trimEnd cs := by
  rw [trimEnd]
  cases h : trimEnd cs <;> simp [hc]

theorem trimStart_cons_of_not_isBlank {c : Char} {cs : List Char} (hc : isBlank c = false) :
    trimStart (c :: cs) = c :: cs := by
  simp [trimStart, hc]

theorem trimList_cons_of_isBlank {c : Char} (cs : List Char) (hc : isBlank c = true) :
    trimList (c :: cs) = trimList cs := by
  rw [trimList, trimStart, List.dropWhile_cons_of_pos hc]
  rfl

theorem trimList_eq_nil_iff {cs : List Char} : trimList cs = [] ↔ ∀ c ∈ cs, isBlank c := by
  induction cs with
  | nil => simp [trimList, trimStart, trimEnd]
  | cons c cs ih =>
    by_cases hc : isBlank c
    · rw [trimList_cons_of_isBlank cs hc, ih]
      simp [hc]
    · have hc' : isBlank c = false := by simpa using hc
      rw [trimList, trimStart_cons_of_not_isBlank hc', trimEnd_cons_of_not_isBlank hc']
      simp [hc]

/-- A text whose last character is no blank has nothing to trim at its end. -/
theorem trimEnd_append_of_not_isBlank {c : Char} (cs : List Char) (hc : isBlank c = false) :
    trimEnd (cs ++ [c]) = cs ++ [c] := by
  induction cs with
  | nil => simp [trimEnd, hc]
  | cons d ds ih =>
    rw [List.cons_append, trimEnd, ih]
    cases ds <;> rfl

/-- A text that neither starts nor ends with a blank is left as it is. -/
theorem trimList_append_of_not_isBlank {c d : Char} (cs : List Char) (hc : isBlank c = false)
    (hd : isBlank d = false) : trimList (c :: (cs ++ [d])) = c :: (cs ++ [d]) := by
  rw [trimList, trimStart_cons_of_not_isBlank hc, trimEnd_cons_of_not_isBlank hc,
    trimEnd_append_of_not_isBlank cs hd]

theorem trimStart_append_of_blank {before : List Char} (h : ∀ c ∈ before, isBlank c)
    (cs : List Char) : trimStart (before ++ cs) = trimStart cs := by
  induction before with
  | nil => rfl
  | cons c before ih =>
    have hc : isBlank c = true := h c List.mem_cons_self
    have hlater := ih fun d hd => h d (List.mem_cons_of_mem c hd)
    rw [← hlater]
    exact List.dropWhile_cons_of_pos hc

theorem trimEnd_append_of_blank (cs : List Char) {after : List Char} (h : ∀ c ∈ after, isBlank c) :
    trimEnd (cs ++ after) = trimEnd cs := by
  induction cs with
  | nil => exact trimEnd_eq_nil_iff.mpr h
  | cons c cs ih => rw [List.cons_append, trimEnd, trimEnd, ih]

theorem trimList_append_of_blank {before after : List Char} (hbefore : ∀ c ∈ before, isBlank c)
    (hafter : ∀ c ∈ after, isBlank c) {c : Char} (hc : isBlank c = false) (cs : List Char) :
    trimList (before ++ (c :: cs ++ after)) = trimList (c :: cs) := by
  rw [trimList, trimList, trimStart_append_of_blank hbefore, List.cons_append,
    trimStart_cons_of_not_isBlank hc, trimStart_cons_of_not_isBlank hc, ← List.cons_append,
    trimEnd_append_of_blank (c :: cs) hafter]

theorem trimList_append_blanks (cs : List Char) {after : List Char} (h : ∀ c ∈ after, isBlank c) :
    trimList (cs ++ after) = trimList cs := by
  induction cs with
  | nil => exact trimList_eq_nil_iff.mpr h
  | cons c cs ih =>
    rw [List.cons_append]
    cases hc : isBlank c with
    | true => rw [trimList_cons_of_isBlank _ hc, trimList_cons_of_isBlank _ hc, ih]
    | false =>
      rw [trimList, trimList, trimStart_cons_of_not_isBlank hc, trimStart_cons_of_not_isBlank hc,
        ← List.cons_append, trimEnd_append_of_blank (c :: cs) h]

/-- A text is what trimming leaves of its end, and blanks. -/
theorem exists_eq_trimEnd_append (cs : List Char) :
    ∃ after, (∀ c ∈ after, isBlank c) ∧ cs = trimEnd cs ++ after := by
  induction cs with
  | nil => exact ⟨[], fun c hc => absurd hc List.not_mem_nil, rfl⟩
  | cons c cs ih =>
    obtain ⟨after, hafter, heq⟩ := ih
    rw [trimEnd]
    cases htrim : trimEnd cs with
    | nil =>
      rw [htrim, List.nil_append] at heq
      cases hc : isBlank c with
      | true =>
        refine ⟨c :: cs, fun d hd => ?_, rfl⟩
        rcases List.mem_cons.mp hd with rfl | hlater
        · exact hc
        · exact hafter d (heq ▸ hlater)
      | false => exact ⟨cs, heq ▸ hafter, rfl⟩
    | cons d ds =>
      rw [htrim] at heq
      exact ⟨after, hafter, congrArg (c :: ·) heq⟩

/-- Trimming leaves nothing, or a text that starts with no blank. -/
theorem trimList_cases (cs : List Char) :
    trimList cs = [] ∨ ∃ c rest, isBlank c = false ∧ trimList cs = c :: trimEnd rest := by
  induction cs with
  | nil => exact Or.inl rfl
  | cons c cs ih =>
    cases hc : isBlank c with
    | true =>
      rw [trimList_cons_of_isBlank cs hc]
      exact ih
    | false =>
      refine Or.inr ⟨c, cs, hc, ?_⟩
      rw [trimList, trimStart_cons_of_not_isBlank hc, trimEnd_cons_of_not_isBlank hc]

theorem trimEnd_trimEnd (cs : List Char) : trimEnd (trimEnd cs) = trimEnd cs := by
  induction cs with
  | nil => rfl
  | cons c cs ih =>
    rw [trimEnd]
    cases h : trimEnd cs with
    | nil => cases hc : isBlank c <;> simp [trimEnd, hc]
    | cons d ds =>
      rw [h] at ih
      show trimEnd (c :: d :: ds) = c :: d :: ds
      rw [trimEnd, ih]

theorem trimList_trimList (cs : List Char) : trimList (trimList cs) = trimList cs := by
  rcases trimList_cases cs with hnil | ⟨c, rest, hc, hcons⟩
  · rw [hnil]
    rfl
  · rw [hcons, trimList, trimStart_cons_of_not_isBlank hc, trimEnd_cons_of_not_isBlank hc,
      trimEnd_trimEnd]

theorem toList_trim (s : String) : (trim s).toList = trimList s.toList := String.toList_ofList

theorem trim_trim (s : String) : trim (trim s) = trim s := by
  rw [trim, toList_trim, trimList_trimList, ← trim]

end SlashLine.Text
