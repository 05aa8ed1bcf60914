import SlashLine.Text.LowerCase

/-!
# Words in lower-case texts

What becomes of a capital sigma hangs on its neighbours, so the lower-case form of a part of a text
need not be a part of the lower-case form of the text. But the two forms of a sigma are all that
differs. A word in ASCII characters has no sigma, and is found in the one if it is found in the
other.

* `map_plainSigma_lowerFrom`: but for the form of a sigma, characters are lowered one by one.
* `infix_lowerList_append`: a word that is found in a part of a text is found in the text.
* `infix_lowerList_of_map_toLower`: however a word is capitalised, it is found.
-/

namespace SlashLine.Text

variable {c : Char} {word cs : List Char}

/-- A final sigma as any other. -/
def plainSigma (c : Char) : Char := if c = 'ς' then 'σ' else c

/-- The lower-case form of a character but for the form of a sigma. -/
def lowerPlain (c : Char) : List Char :=
  if c == 'Σ' then ['σ'] else (lowerChar c).map plainSigma

/-- The characters of a word are ASCII. -/
def IsAscii (word : List Char) : Prop := ∀ c ∈ word, c.toNat < 0x80

/-- But for the final sigma a text is put in lower case letter by letter. -/
theorem map_plainSigma_lowerFrom (afterCased : Bool) (cs : List Char) :
    (lowerFrom afterCased cs).map plainSigma = cs.flatMap lowerPlain := by
  induction cs generalizing afterCased with
  | nil => rfl
  | cons c cs ih =>
    rw [lowerFrom, List.map_append, ih, List.flatMap_cons]
    congr 1
    rw [lowerPlain]
    split
    · split <;> rfl
    · rfl

theorem IsAscii.not_mem (h : IsAscii word) (hc : 0x80 ≤ c.toNat) : c ∉ word :=
  fun hmem => absurd (h c hmem) (Nat.not_lt.mpr hc)

theorem plainSigma_of_ascii (h : c.toNat < 0x80) : plainSigma c = c := by
  refine if_neg ?_
  rintro rfl
  exact absurd h (by decide)

theorem map_plainSigma_of_ascii (h : IsAscii word) : word.map plainSigma = word := by
  have hsame : ∀ c ∈ word, plainSigma c = id c := fun c hc => plainSigma_of_ascii (h c hc)
  rw [List.map_congr_left hsame, List.map_id]

/-- The form of a sigma makes no difference to where a word is found. -/
theorem infix_map_plainSigma_iff (h : IsAscii word) :
    word <:+: cs.map plainSigma ↔ word <:+: cs := by
  constructor
  · intro hfound
    obtain ⟨part, hpart, rfl⟩ := List.infix_map_iff.mp hfound
    have hsame : ∀ c ∈ part, plainSigma c = id c := by
      intro c hc
      refine if_neg ?_
      rintro rfl
      exact h.not_mem (by decide) (List.mem_map.mpr ⟨'ς', hc, rfl⟩ : 'σ' ∈ part.map plainSigma)
    rwa [List.map_congr_left hsame, List.map_id]
  · intro hfound
    rw [← map_plainSigma_of_ascii h]
    exact hfound.map plainSigma

/-- A plain word has no sigma in it, so it occurs in the lower case exactly if it occurs in the
letters put in lower case one by one. -/
theorem infix_lowerList_iff (h : IsAscii word) :
    word <:+: lowerList cs ↔ word <:+: cs.flatMap lowerPlain := by
  rw [← map_plainSigma_lowerFrom false, infix_map_plainSigma_iff h, lowerList]

/-- A plain word that occurs in the lower case of a text still does when the text is put among
others. -/
theorem infix_lowerList_append (h : IsAscii word) (hfound : word <:+: lowerList cs)
    (before after : List Char) : word <:+: lowerList (before ++ cs ++ after) := by
  rw [infix_lowerList_iff h] at hfound ⊢
  rw [List.flatMap_append, List.flatMap_append]
  exact hfound.trans ⟨_, _, rfl⟩

/-! ## Capitals -/

theorem lt_of_toLower_lt (h : c.toLower.toNat < 0x80) : c.toNat < 0x80 := by
  by_cases hupper : c.val ≥ 'A'.val ∧ c.val ≤ 'Z'.val
  · have hle := UInt32.le_iff_toNat_le.mp hupper.2
    have hlast : 'Z'.val.toNat = 90 := rfl
    have hcode : c.val.toNat = c.toNat := rfl
    omega
  · have hsame : c.toLower = c := dif_neg hupper
    rwa [hsame] at h

theorem lowerPlain_of_toLower_lt (h : c.toLower.toNat < 0x80) : lowerPlain c = [c.toLower] := by
  have hc := lt_of_toLower_lt h
  have hsigma : ¬ (c == 'Σ') = true := by
    intro heq
    rw [beq_iff_eq.mp heq] at hc
    exact absurd hc (by decide)
  rw [lowerPlain, if_neg hsigma, lowerChar_ascii hc, List.map_singleton, plainSigma_of_ascii h]

theorem flatMap_lowerPlain (h : IsAscii (cs.map Char.toLower)) :
    cs.flatMap lowerPlain = cs.map Char.toLower := by
  induction cs with
  | nil => rfl
  | cons c cs ih =>
    have hc : c.toLower.toNat < 0x80 := h _ List.mem_cons_self
    have hrest : IsAscii (cs.map Char.toLower) := fun d hd => h d (List.mem_cons_of_mem _ hd)
    rw [List.flatMap_cons, lowerPlain_of_toLower_lt hc, ih hrest, List.map_cons,
      List.singleton_append]

/-- In whatever case a plain word is written, it occurs in the lower case. -/
theorem infix_lowerList_of_map_toLower (h : IsAscii word) (hlower : cs.map Char.toLower = word) :
    word <:+: lowerList cs := by
  subst hlower
  refine (infix_lowerList_iff h).mpr ⟨[], [], ?_⟩
  rw [List.nil_append, List.append_nil, flatMap_lowerPlain h]

end SlashLine.Text
