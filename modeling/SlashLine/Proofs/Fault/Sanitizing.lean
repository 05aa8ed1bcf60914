import SlashLine.Proofs.Fault.Discretion

/-!
# Sanitised texts

What the reader of a sanitised text is promised: no directory between two slashes is in it, however
the home directory is spelled; the home directory is not in it, if its names are made of ASCII
letters, digits, `_` and `-`; and it is short. A name with a character that ends a path, such as a
space, could come together again around a directory that is left out. What has nothing to hide is
shown as it is.

* `isPathChar_iff`: the characters of paths, by ranges.
* `sanitizeText_of_discreet`: a short text that shows no place is left as it is.
* `sanitize_hides_places`: all of it, for the text of any fault.
-/

namespace SlashLine

variable {home steps cs : List Char}

/-! ## Characters of paths -/

/-- The class `[A-Za-z0-9_/.-]`. -/
def InPathClass (c : Char) : Prop :=
  'A' ≤ c ∧ c ≤ 'Z' ∨ 'a' ≤ c ∧ c ≤ 'z' ∨ '0' ≤ c ∧ c ≤ '9' ∨ c ∈ ['_', '/', '.', '-']

theorem isPathChar_iff {c : Char} : isPathChar c = true ↔ InPathClass c := by
  have hname : c.isAlphanum = (decide ('A'.val ≤ c.val ∧ c.val ≤ 'Z'.val) ||
      decide ('a'.val ≤ c.val) && decide (c.val ≤ 'z'.val) ||
        decide ('0'.val ≤ c.val) && decide (c.val ≤ '9'.val)) :=
    rfl
  simp only [isPathChar, hname, InPathClass, Bool.or_eq_true, Bool.and_eq_true, decide_eq_true_eq,
    beq_iff_eq, Char.le_def, List.mem_cons, List.not_mem_nil, or_false, or_assoc]

/-! ## Texts with nothing to hide -/

/-- A text without directories loses nothing. -/
theorem dropDirectories_of_no_directory
    (h : ∀ steps, (∀ c ∈ steps, isPathChar c = true) → ¬ '/' :: (steps ++ ['/']) <:+: cs) :
    dropDirectories cs = cs := by
  rw [dropDirectories]
  induction cs with
  | nil => rfl
  | cons c cs ih =>
    have hlater := ih fun steps hsteps hshown => h steps hsteps (List.infix_cons hshown)
    rw [dropDirectoriesFrom]
    split
    · next hslash =>
      obtain rfl : c = '/' := beq_iff_eq.mp hslash
      have hnone : throughLastSlash (cs.takeWhile isPathChar) = 0 := by
        refine throughLastSlash_eq_zero_iff.mpr fun hmem => ?_
        obtain ⟨steps, rest, hsplit⟩ := List.append_of_mem hmem
        have hsteps : ∀ c ∈ steps, isPathChar c = true := by
          intro c hc
          have hpath : c ∈ cs.takeWhile isPathChar := hsplit ▸ List.mem_append_left _ hc
          exact List.all_eq_true.mp List.all_takeWhile c hpath
        have hfront : steps ++ ['/'] <+: cs :=
          List.IsPrefix.trans ⟨rest, by simp [hsplit]⟩ (List.takeWhile_prefix isPathChar)
        exact h steps hsteps (List.cons_prefix_cons.mpr ⟨rfl, hfront⟩).isInfix
      simp only [hnone, hlater]
    · rw [hlater]

theorem cutText_of_short (h : cs.length ≤ 200) : cutText cs = cs :=
  if_neg (Nat.not_lt.mpr h)

/-- A short text that shows no place is left as it is. -/
theorem sanitizeText_of_discreet (h : Discreet home cs) (hshort : cs.length ≤ 200) :
    sanitizeText home cs = cs := by
  have hhome : Text.replaceAll home ['~'] cs = cs :=
    Text.replaceAll_of_not_infix ['~'] (h home .home)
  have hdirectories : dropDirectories cs = cs :=
    dropDirectories_of_no_directory fun steps hsteps => h _ (.directory hsteps)
  rw [sanitizeText, hhome, hdirectories, cutText_of_short hshort]

/-! ## The text of a fault -/

/-- What is said about a fault that has no text hides every place, as it has no slash. -/
theorem discreet_unknownText (hhome : IsPlainPath home) : Discreet home unknownText.toList :=
  discreet_of_no_slash hhome (by decide)

/-- What is shown of a fault: its sanitised text, or that there is none. -/
theorem sanitize_cases (home : String) (fault : Fault) :
    (∃ text, fault.text = .ok text ∧
      (sanitize (some home) fault).toList = sanitizeText home.toList text.toList) ∨
    ((∃ trouble, fault.message = .error trouble) ∧ sanitize (some home) fault = unknownText) := by
  cases hmessage : fault.message with
  | error trouble => exact Or.inr ⟨⟨trouble, rfl⟩, sanitize_of_trouble hmessage _⟩
  | ok message =>
    have htext : fault.text = .ok (if message.isEmpty then fault.kind else message) := by
      rw [Fault.text, hmessage]
      rfl
    exact Or.inl ⟨_, htext, by rw [sanitize_of_text htext, String.toList_ofList]⟩

/-- Of the text of a fault, whatever the home directory is, nothing is shown that starts with a
slash, goes on in characters of paths and ends with a slash, and of at most 203 characters; nor is
a home directory in plain names. A short text in which neither occurs is shown as it is, and of a
fault that cannot be put into words nothing is shown at all. -/
theorem sanitize_hides_places (home : String) (fault : Fault) :
    let shown := (sanitize (some home) fault).toList
    (∀ steps : List Char, (∀ c ∈ steps, InPathClass c) → ¬ '/' :: (steps ++ ['/']) <:+: shown) ∧
      shown.length ≤ 203 ∧ (IsHome home.toList → ¬ home.toList <:+: shown) ∧
      (∀ text, fault.text = .ok text → Discreet home.toList text.toList →
        text.toList.length ≤ 200 → shown = text.toList) ∧
      ∀ trouble, fault.message = .error trouble → shown = "Internal error occurred".toList := by
  intro shown
  rcases sanitize_cases home fault with ⟨text, htext, hsanitized⟩ | ⟨⟨trouble, hmute⟩, hunknown⟩
  · have hshown : shown = sanitizeText home.toList text.toList := hsanitized
    rw [hshown]
    refine ⟨fun steps hsteps => ?_, sanitizeText_length _ _, fun hhome => ?_, ?_, ?_⟩
    · exact not_infix_sanitizeText_directory fun c hc => isPathChar_iff.mpr (hsteps c hc)
    · exact not_infix_sanitizeText_home hhome.isPlainPath
    · intro text' htext'
      rw [htext] at htext'
      cases htext'
      exact sanitizeText_of_discreet
    · intro trouble hmute
      rw [Fault.text_eq_error_iff.mpr hmute] at htext
      cases htext
  · have hshown : shown = unknownText.toList := congrArg String.toList hunknown
    rw [hshown]
    refine ⟨fun steps hsteps => ?_, by decide, fun hhome => ?_, ?_, fun _ _ => rfl⟩
    · have hplace : IsLocal ['/'] ('/' :: (steps ++ ['/'])) :=
        .directory fun c hc => isPathChar_iff.mpr (hsteps c hc)
      have hroot : IsPlainPath ['/'] :=
        ⟨⟨[], rfl⟩, List.forall_mem_singleton.mpr (by decide), by decide⟩
      exact discreet_unknownText hroot _ hplace
    · exact discreet_unknownText hhome.isPlainPath _ .home
    · intro text htext
      rw [Fault.text_eq_error_iff.mpr hmute] at htext
      cases htext

/-- A home directory right below the root, which is no directory between two slashes, and a text in
which it would come together once more if the mark for it were left out like a directory. -/
def rootHome : String := "/tester"
def openFault : Fault := .other "OSError" "open /tes/tester/ter, then /tes/var/log/ter"

theorem isHome_rootHome : IsHome rootHome.toList := by
  refine ⟨["tester".toList], List.cons_ne_nil _ _, ?_, rfl⟩
  intro step hstep
  obtain rfl := List.mem_singleton.mp hstep
  exact ⟨by decide, List.all_eq_true.mp (by decide)⟩

/-- The home directory that would come together is hidden, a text about nothing local is shown, and
of a fault without a text nothing is. -/
theorem rootHome_hidden :
    sanitize (some rootHome) openFault = "open /tes~/ter, then ter" ∧ IsHome rootHome.toList ∧
      ¬ rootHome.toList <:+: (sanitize (some rootHome) openFault).toList ∧
      diskFault.text = .ok "disk failure" ∧
      Discreet rootHome.toList "disk failure".toList ∧ "disk failure".toList.length ≤ 200 ∧
      (sanitize (some rootHome) diskFault).toList = "disk failure".toList ∧
      (sanitize (some rootHome) (.unprintable "CalledProcessError" diskFault)).toList =
        "Internal error occurred".toList := by
  have hdiscreet : Discreet rootHome.toList "disk failure".toList :=
    discreet_of_no_slash isHome_rootHome.isPlainPath (by decide)
  have hshort : "disk failure".toList.length ≤ 200 := by decide
  exact ⟨by decide +kernel, isHome_rootHome,
    (sanitize_hides_places rootHome openFault).2.2.1 isHome_rootHome, rfl, hdiscreet, hshort,
    (sanitize_hides_places rootHome diskFault).2.2.2.1 _ rfl hdiscreet hshort,
    (sanitize_hides_places rootHome (.unprintable "CalledProcessError" diskFault)).2.2.2.2 _ rfl⟩

end SlashLine
