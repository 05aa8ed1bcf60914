import Mathlib.Data.List.Nodup
import SlashLine.Fault.Classification
import SlashLine.Proofs.Text.LowerWords

/-!
# Rules and longer texts

The rules are tried in order, so a text to which something is added may come under an earlier rule,
if a word of that rule is in what was added or comes about at a seam. It never comes under a later
one: the word that gave it away is still there. The words of the table are in ASCII characters,
which is what makes lowering keep them.

* `applies_append`: a rule goes on to apply.
* `findRule_covers`, `place_findRule_le`: the rule of a text is the first that covers it.
* `findRule_wrapped`: the rule of a text with something before and after it.
-/

namespace SlashLine

variable {rule other : Rule} {cs : List Char} {message : String}

/-! ## The table -/

/-- The rules in order, with the generic one last. -/
def allRules : List Rule := ruleTable ++ [genericRule]

/-- How many rules are tried before a rule. -/
def Rule.place (rule : Rule) : Nat := (allRules.map Rule.category).idxOf rule.category

/-- A rule is another one or stands before it. -/
def Rule.AtOrBefore (rule other : Rule) : Prop := rule = other ∨ rule.place < other.place

theorem nodup_category : (allRules.map Rule.category).Nodup := by decide

theorem isAscii_pattern : ∀ rule ∈ ruleTable, ∀ pattern ∈ rule.patterns,
    Text.IsAscii pattern.toList := by
  have hall : (ruleTable.all fun rule => rule.patterns.all fun pattern =>
      pattern.toList.all fun c => decide (c.toNat < 0x80)) = true := by
    decide +kernel
  intro rule hrule pattern hpattern c hc
  have hrules := List.all_eq_true.mp hall rule hrule
  have hpatterns := List.all_eq_true.mp hrules pattern hpattern
  exact of_decide_eq_true (List.all_eq_true.mp hpatterns c hc)

theorem genericRule_not_mem : genericRule ∉ ruleTable := by
  intro hmem
  have hlast : genericRule.category ∉ ruleTable.map Rule.category := by decide
  exact hlast (List.mem_map_of_mem hmem)

theorem mem_allRules_iff : rule ∈ allRules ↔ rule ∈ ruleTable ∨ rule = genericRule := by
  rw [allRules, List.mem_append, List.mem_singleton]

/-- No two rules have one place. -/
theorem Rule.atOrBefore_of_le (hrule : rule ∈ allRules) (hother : other ∈ allRules)
    (h : rule.place ≤ other.place) : rule.AtOrBefore other := by
  rcases Nat.lt_or_eq_of_le h with hlt | heq
  · exact Or.inr hlt
  · have hcategory := (List.idxOf_inj (List.mem_map_of_mem hrule)).mp heq
    exact Or.inl (List.inj_on_of_nodup_map nodup_category hrule hother hcategory)

theorem Rule.place_le_of_split {earlier later : List Rule}
    (hsplit : allRules = earlier ++ rule :: later) (hother : other ∈ rule :: later) :
    rule.place ≤ other.place := by
  have hnodup := nodup_category
  rw [hsplit, List.map_append, List.nodup_append] at hnodup
  have hafter : ∀ r ∈ rule :: later, r.category ∉ earlier.map Rule.category :=
    fun r hr hmem => hnodup.2.2 _ hmem _ (List.mem_map_of_mem hr) rfl
  rw [place, place, hsplit, List.map_append,
    List.idxOf_append_of_notMem (hafter rule List.mem_cons_self),
    List.idxOf_append_of_notMem (hafter other hother), List.map_cons, List.idxOf_cons_self]
  omega

/-- The generic rule comes after all of the table. -/
theorem not_atOrBefore_generic (hrule : rule ∈ ruleTable) : ¬ genericRule.AtOrBefore rule := by
  rintro (rfl | hlt)
  · exact genericRule_not_mem hrule
  · obtain ⟨earlier, later, htable⟩ := List.append_of_mem hrule
    have hsplit : allRules = earlier ++ rule :: (later ++ [genericRule]) := by
      rw [allRules, htable, List.append_assoc, List.cons_append]
    have hle := Rule.place_le_of_split hsplit
      (List.mem_cons_of_mem _ (List.mem_append_right later List.mem_cons_self))
    omega

/-! ## The rule of a text -/

/-- A word of a rule is in a text, or the rule is the generic one. -/
def Rule.Covers (rule : Rule) (message : String) : Prop :=
  rule = genericRule ∨
    ∃ pattern ∈ rule.patterns, pattern.toList <:+: Text.lowerList message.toList

theorem applies_iff :
    rule.applies cs = true ↔ ∃ pattern ∈ rule.patterns, pattern.toList <:+: cs := by
  rw [Rule.applies, List.any_eq_true]
  exact exists_congr fun pattern => and_congr_right fun _ => Text.occursIn_iff

/-- The rule of a text, and the rules that were tried before it. -/
theorem findRule_split (message : String) : ∃ earlier later,
    allRules = earlier ++ findRule message :: later ∧ (findRule message).Covers message ∧
      ∀ rule ∈ earlier, ¬ rule.Covers message := by
  have hnot {rules : List Rule} (hrules : rules ⊆ ruleTable)
      (happlies : ∀ rule ∈ rules, ¬ rule.applies (Text.lowerList message.toList) = true) :
      ∀ rule ∈ rules, ¬ rule.Covers message := by
    rintro rule hrule (rfl | hword)
    · exact genericRule_not_mem (hrules hrule)
    · exact happlies rule hrule (applies_iff.mpr hword)
  cases hfind : ruleTable.find? (·.applies (Text.lowerList message.toList)) with
  | none =>
    have hgeneric : findRule message = genericRule := by rw [findRule, hfind, Option.getD_none]
    rw [hgeneric]
    exact ⟨ruleTable, [], rfl, Or.inl rfl,
      hnot (List.Subset.refl _) (List.find?_eq_none.mp hfind)⟩
  | some rule =>
    have hrule : findRule message = rule := by rw [findRule, hfind, Option.getD_some]
    obtain ⟨happlies, earlier, later, htable, hearlier⟩ := List.find?_eq_some_iff_append.mp hfind
    rw [hrule]
    refine ⟨earlier, later ++ [genericRule], ?_, Or.inr (applies_iff.mp happlies), hnot ?_ ?_⟩
    · rw [allRules, htable, List.append_assoc, List.cons_append]
    · rw [htable]
      exact List.subset_append_left _ _
    · intro r hr
      simpa using hearlier r hr

theorem findRule_mem (message : String) : findRule message ∈ allRules := by
  obtain ⟨earlier, later, hsplit, -⟩ := findRule_split message
  rw [hsplit]
  exact List.mem_append_right _ List.mem_cons_self

/-- The rule that is found covers the message. -/
theorem findRule_covers (message : String) : (findRule message).Covers message := by
  obtain ⟨-, -, -, hcovers, -⟩ := findRule_split message
  exact hcovers

/-- No rule that covers the message comes before the one that is found. -/
theorem findRule_atOrBefore (hrule : rule ∈ allRules) (hcovers : rule.Covers message) :
    (findRule message).AtOrBefore rule := by
  refine Rule.atOrBefore_of_le (findRule_mem message) hrule ?_
  obtain ⟨earlier, later, hsplit, -, hearlier⟩ := findRule_split message
  refine Rule.place_le_of_split hsplit ?_
  rw [hsplit, List.mem_append] at hrule
  exact hrule.resolve_left fun hmem => hearlier rule hmem hcovers

/-! ## Longer texts -/

/-- A rule still covers a message that others are put around. -/
theorem Rule.Covers.append (hrule : rule ∈ allRules) (h : rule.Covers message)
    (before after : String) : rule.Covers (before ++ message ++ after) := by
  rcases mem_allRules_iff.mp hrule with htable | hgeneric
  · refine h.imp_right fun ⟨pattern, hpattern, hfound⟩ => ⟨pattern, hpattern, ?_⟩
    rw [String.toList_append, String.toList_append]
    exact Text.infix_lowerList_append (isAscii_pattern rule htable pattern hpattern) hfound _ _
  · exact Or.inl hgeneric

/-- However a word of a rule is capitalised, the rule covers it. -/
theorem Rule.covers_word {pattern word : String} (hrule : rule ∈ ruleTable)
    (hpattern : pattern ∈ rule.patterns) (hword : word.toList.map Char.toLower = pattern.toList) :
    rule.Covers word :=
  Or.inr ⟨pattern, hpattern,
    Text.infix_lowerList_of_map_toLower (isAscii_pattern rule hrule pattern hpattern) hword⟩

/-- The rule of a text with something before and after it is the rule of the text or stands before
it in the table. A text with a word of a rule in it, in capital and small letters, comes under that
rule or one before it, and so never under the generic one. No text comes under a rule without a
word of it. -/
theorem findRule_wrapped (before message after : String) :
    (findRule (before ++ message ++ after)).AtOrBefore (findRule message) ∧
      (∀ rule ∈ ruleTable, ∀ pattern ∈ rule.patterns,
        message.toList.map Char.toLower = pattern.toList →
          (findRule (before ++ message ++ after)).AtOrBefore rule ∧
            findRule (before ++ message ++ after) ≠ genericRule) ∧
      (findRule message).Covers message := by
  refine ⟨?_, ?_, findRule_covers message⟩
  · exact findRule_atOrBefore (findRule_mem message)
      ((findRule_covers message).append (findRule_mem message) before after)
  · intro rule hrule pattern hpattern hword
    have hmem : rule ∈ allRules := mem_allRules_iff.mpr (Or.inl hrule)
    have hbefore : (findRule (before ++ message ++ after)).AtOrBefore rule :=
      findRule_atOrBefore hmem
        ((Rule.covers_word hrule hpattern hword).append hmem before after)
    exact ⟨hbefore, fun hgeneric => not_atOrBefore_generic hrule (hgeneric ▸ hbefore)⟩

/-- A word of an earlier rule makes a difference, one of a later rule does not. -/
example : (findRule "model").category = .model ∧ (findRule "model timeout").category = .network ∧
    (findRule "model settings").category = .model := by
  decide +kernel

/-- The second rule of the table. -/
def permissionRule : Rule := ruleTable[1]

theorem permission_wrapped :
    permissionRule ∈ ruleTable ∧ "permission denied" ∈ permissionRule.patterns ∧
      "Permission DENIED".toList.map Char.toLower = "permission denied".toList ∧
      (findRule ("ΟΔΟΣ: " ++ "Permission DENIED" ++ " by the provider")).AtOrBefore
        permissionRule ∧
      findRule ("ΟΔΟΣ: " ++ "Permission DENIED" ++ " by the provider") ≠ genericRule := by
  have hrule : permissionRule ∈ ruleTable := List.getElem_mem _
  have hpattern : "permission denied" ∈ permissionRule.patterns :=
    List.mem_cons_of_mem _ List.mem_cons_self
  have hword : "Permission DENIED".toList.map Char.toLower = "permission denied".toList := by
    decide +kernel
  obtain ⟨-, hwords, -⟩ := findRule_wrapped "ΟΔΟΣ: " "Permission DENIED" " by the provider"
  obtain ⟨hbefore, hspecial⟩ := hwords permissionRule hrule "permission denied" hpattern hword
  exact ⟨hrule, hpattern, hword, hbefore, hspecial⟩

end SlashLine
