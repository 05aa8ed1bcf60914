/-!
# Searching and replacing

Whether a text occurs in another, and a text with every occurrence of a word replaced.

* `occursIn_iff`: occurring is being an infix.
* `not_infix_replaceAll`: a word that is replaced by a character it does not have is gone.
-/

namespace SlashLine.Text

/-- What follows a character. -/
def after? (c : Char) : List Char → Option (List Char)
  | d :: rest => if c = d then some rest else none
  | [] => none

/-- `word` occurs in the text, from some position on. -/
def occursIn (word : List Char) : List Char → Bool
  | [] => word.isEmpty
  | c :: cs => word.isPrefixOf (c :: cs) || occursIn word cs

/-- Passes over `skip` characters, then writes `other` for every occurrence of `word`, from left to
right and without overlaps. -/
def replaceFrom (word other : List Char) : Nat → List Char → List Char
  | _, [] => []
  | skip + 1, _ :: cs => replaceFrom word other skip cs
  | 0, c :: cs =>
    if !word.isEmpty && word.isPrefixOf (c :: cs) then
      other ++ replaceFrom word other (word.length - 1) cs
    else c :: replaceFrom word other 0 cs

/-- The text with `other` for every occurrence of `word`. -/
def replaceAll (word other cs : List Char) : List Char := replaceFrom word other 0 cs

/-- Texts one after the other, with a separator between any two. -/
def joined (separator : String) : List String → String
  | [] => ""
  | [s] => s
  | s :: rest => s ++ separator ++ joined separator rest

theorem occursIn_iff {word cs : List Char} : occursIn word cs ↔ word <:+: cs := by
  induction cs with
  | nil => simp [occursIn, List.infix_nil]
  | cons c cs ih => simp [occursIn, ih, List.infix_cons_iff]

theorem prefix_of_prefix_replaceFrom {word w cs : List Char} {mark : Char} (hmark : mark ∉ w)
    (h : w <+: replaceFrom word [mark] 0 cs) : w <+: cs := by
  induction cs generalizing w with
  | nil => exact h
  | cons c cs ih =>
    cases w with
    | nil => exact List.nil_prefix
    | cons d w =>
      rw [replaceFrom] at h
      split at h
      · obtain ⟨rfl, -⟩ := List.cons_prefix_cons.mp h
        exact absurd List.mem_cons_self hmark
      · obtain ⟨rfl, hlater⟩ := List.cons_prefix_cons.mp h
        have hw : mark ∉ w := fun hmem => hmark (List.mem_cons_of_mem d hmem)
        exact List.cons_prefix_cons.mpr ⟨rfl, ih hw hlater⟩

/-- Before the first mark the text is as it was, so a word without the mark would have been found
where it starts. -/
theorem not_infix_replaceFrom {word : List Char} {mark : Char} (hword : word ≠ [])
    (hmark : mark ∉ word) (skip : Nat) (cs : List Char) :
    ¬ word <:+: replaceFrom word [mark] skip cs := by
  induction cs generalizing skip with
  | nil =>
    intro h
    exact hword (List.infix_nil.mp (by simpa [replaceFrom] using h))
  | cons c cs ih =>
    cases skip with
    | succ skip => exact ih skip
    | zero =>
      intro h
      have hstart : ¬ word <+: replaceFrom word [mark] 0 (c :: cs) := by
        intro hfront
        have hfound := prefix_of_prefix_replaceFrom hmark hfront
        rw [replaceFrom, if_pos (by simp [hword, hfound])] at hfront
        rcases List.prefix_cons_iff.mp hfront with rfl | ⟨rest, rfl, -⟩
        · exact hword rfl
        · exact hmark List.mem_cons_self
      rw [replaceFrom] at h hstart
      split at h
      · rw [if_pos ‹_›] at hstart
        exact (List.infix_cons_iff.mp h).elim hstart (ih _)
      · rw [if_neg ‹_›] at hstart
        exact (List.infix_cons_iff.mp h).elim hstart (ih 0)

/-- A text without the word is left as it is. -/
theorem replaceAll_of_not_infix {word cs : List Char} (other : List Char) (h : ¬ word <:+: cs) :
    replaceAll word other cs = cs := by
  rw [replaceAll]
  induction cs with
  | nil => rfl
  | cons c cs ih =>
    have hstart : ¬ (!word.isEmpty && word.isPrefixOf (c :: cs)) = true := by
      intro hfound
      have hprefix := List.isPrefixOf_iff_prefix.mp (Bool.and_eq_true_iff.mp hfound).2
      exact h hprefix.isInfix
    rw [replaceFrom, if_neg hstart, ih fun hlater => h (List.infix_cons hlater)]

theorem not_infix_replaceAll {word : List Char} {mark : Char} (hword : word ≠ [])
    (hmark : mark ∉ word) (cs : List Char) : ¬ word <:+: replaceAll word [mark] cs :=
  not_infix_replaceFrom hword hmark 0 cs

end SlashLine.Text
