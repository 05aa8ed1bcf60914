import SlashLine.Text.Blank
import SlashLine.Text.LowerCase

/-!
# Lower case and blanks

Lower-casing may change the length of a text, and what becomes of a sigma hangs on its neighbours;
but a blank is its own lower-case form wherever it stands. So a text that has a blank at one of its
ends keeps it.

* `lowerChar_of_isBlank`: a blank is its own lower-case form.
* `trimList_of_trimList_lowerList`: a text is trimmed if its lower-case form is.
-/

namespace SlashLine.Text

variable {c : Char} {cs before : List Char}

/-! ## Blanks -/

/-- The blanks beyond ASCII, by code point. -/
def wideBlanks : List Nat :=
  [0x85, 0xa0, 0x1680, 0x2000, 0x2001, 0x2002, 0x2003, 0x2004, 0x2005, 0x2006, 0x2007, 0x2008,
   0x2009, 0x200a, 0x2028, 0x2029, 0x202f, 0x205f, 0x3000]

theorem mem_wideBlanks (hwide : 0x80 ≤ c.toNat) (hc : isBlank c = true) :
    c.toNat ∈ wideBlanks := by
  unfold isBlank at hc
  rw [if_neg (by omega)] at hc
  simp only [Bool.or_eq_true, Bool.and_eq_true, beq_iff_eq, decide_eq_true_eq] at hc
  simp only [wideBlanks, List.mem_cons, List.not_mem_nil, or_false]
  omega

/-- No run of the table reaches a blank. -/
theorem lowerShift?_wideBlanks : ∀ n ∈ wideBlanks, lowerShift? lowerRuns n = none := by
  decide +kernel

theorem toLower_of_isBlank (hnarrow : c.toNat < 0x80) (hc : isBlank c = true) : c.toLower = c := by
  unfold isBlank at hc
  rw [if_pos hnarrow] at hc
  simp only [Bool.or_eq_true, Bool.and_eq_true, beq_iff_eq, decide_eq_true_eq] at hc
  have hcode : c.val.toNat = c.toNat := rfl
  have hfirst : 'A'.val.toNat = 65 := rfl
  have hnotUpper : ¬ ('A'.val ≤ c.val ∧ c.val ≤ 'Z'.val) := by
    rintro ⟨hupper, -⟩
    rw [UInt32.le_iff_toNat_le] at hupper
    omega
  exact dif_neg hnotUpper

theorem lowerChar_of_isBlank (hc : isBlank c = true) : lowerChar c = [c] := by
  by_cases hnarrow : c.toNat < 0x80
  · rw [lowerChar_ascii hnarrow, toLower_of_isBlank hnarrow hc]
  · have hmem := mem_wideBlanks (by omega) hc
    have hdotted : ¬ (c == '\u0130') = true := by
      intro h
      rw [beq_iff_eq.mp h] at hmem
      exact absurd hmem (by decide)
    rw [lowerChar, if_neg hnarrow, if_neg hdotted, lowerShift?_wideBlanks _ hmem]

theorem lowerFrom_cons_of_isBlank (hc : isBlank c = true) (afterCased : Bool) (cs : List Char) :
    lowerFrom afterCased (c :: cs) =
      c :: lowerFrom (if isCaseIgnorable c then afterCased else isCased c) cs := by
  have hsigma : ¬ (c == 'Σ') = true := by
    intro h
    rw [beq_iff_eq.mp h] at hc
    exact absurd hc (by decide)
  simp only [lowerFrom]
  rw [if_neg hsigma, lowerChar_of_isBlank hc]
  rfl

/-- A blank at the end stays at the end of the lower case. -/
theorem exists_lowerFrom_append (hc : isBlank c = true) (afterCased : Bool) (cs : List Char) :
    ∃ before, lowerFrom afterCased (cs ++ [c]) = before ++ [c] := by
  induction cs generalizing afterCased with
  | nil => exact ⟨[], lowerFrom_cons_of_isBlank hc afterCased []⟩
  | cons d cs ih =>
    obtain ⟨before, hbefore⟩ := ih (if isCaseIgnorable d then afterCased else isCased d)
    simp only [List.cons_append, lowerFrom]
    rw [hbefore, ← List.append_assoc]
    exact ⟨_, rfl⟩

/-! ## Trimmed texts -/

/-- What is trimmed does not end in a blank. -/
theorem isBlank_eq_false_of_trimEnd (h : trimEnd cs = before ++ [c]) : isBlank c = false := by
  induction cs generalizing before with
  | nil => exact absurd h.symm (List.append_ne_nil_of_right_ne_nil before (List.cons_ne_nil c []))
  | cons d cs ih =>
    rw [trimEnd] at h
    cases hrest : trimEnd cs with
    | nil =>
      cases hd : isBlank d with
      | true => simp [hrest, hd] at h
      | false =>
        have hone : [d] = before ++ [c] := by simpa [hrest, hd] using h
        have hlast := congrArg List.getLast? hone
        rw [List.getLast?_singleton, List.getLast?_concat] at hlast
        rw [← Option.some.inj hlast]
        exact hd
    | cons e es =>
      rw [hrest] at h
      cases before with
      | nil => cases h
      | cons d' before =>
        obtain ⟨-, hlast⟩ := List.cons.inj h
        exact ih (hrest.trans hlast)

/-- A trimmed text is empty, or there is no blank at either end of it. -/
theorem trimList_eq_self_iff : trimList cs = cs ↔
    (∀ c rest, cs = c :: rest → isBlank c = false) ∧
      ∀ before c, cs = before ++ [c] → isBlank c = false := by
  constructor
  · intro h
    refine ⟨?_, ?_⟩
    · rintro c rest rfl
      rcases trimList_cases (c :: rest) with hnil | ⟨d, later, hd, hcons⟩
      · rw [h] at hnil
        cases hnil
      · rw [h] at hcons
        obtain ⟨rfl, -⟩ := List.cons.inj hcons
        exact hd
    · rintro before c rfl
      exact isBlank_eq_false_of_trimEnd h
  · rintro ⟨hfirst, hlast⟩
    cases cs with
    | nil => rfl
    | cons c cs =>
      have hc : isBlank c = false := hfirst c cs rfl
      rw [trimList, trimStart_cons_of_not_isBlank hc]
      rcases List.eq_nil_or_concat (c :: cs) with hnil | ⟨before, d, hconcat⟩
      · cases hnil
      · rw [List.concat_eq_append] at hconcat
        rw [hconcat]
        exact trimEnd_append_of_not_isBlank before (hlast before d hconcat)

/-- A text is trimmed if its lower-case form is. -/
theorem trimList_of_trimList_lowerList (h : trimList (lowerList cs) = lowerList cs) :
    trimList cs = cs := by
  obtain ⟨hfirst, hlast⟩ := trimList_eq_self_iff.mp h
  refine trimList_eq_self_iff.mpr ⟨?_, ?_⟩
  · rintro c rest rfl
    refine eq_false_of_ne_true fun hc => ?_
    have hblank := hfirst c _ (lowerFrom_cons_of_isBlank hc false rest)
    rw [hc] at hblank
    cases hblank
  · rintro before c rfl
    refine eq_false_of_ne_true fun hc => ?_
    obtain ⟨lowered, hlowered⟩ := exists_lowerFrom_append hc false before
    have hblank := hlast lowered c hlowered
    rw [hc] at hblank
    cases hblank

end SlashLine.Text
