import SlashLine.Command.Similar
import SlashLine.Proofs.Command.Registration

/-!
# Suggested names

A name may be similar to a query in several ways at once: one that equals it starts with it,
contains it and is contained in it. It is suggested for the closest way only, so the suggestions are
three lists one after the other, each by arrival, and a limit cuts off what is least similar.

* `Starts`, `Within`: the two ways in which texts are compared.
* `similarNames_eq`: the three lists, for any names without repetitions.
* `similar_by_closeness`: the suggestions after any changes.
-/

namespace SlashLine.Command

/-- The name starts with the query, letter case aside. -/
def Starts (query name : String) : Prop :=
  (Text.lower query).toList <+: (Text.lower name).toList

/-- A text is in another one, letter case aside. -/
def Within (part whole : String) : Prop :=
  (Text.lower part).toList <:+: (Text.lower whole).toList

variable {query name : String} {names : List String}

theorem starts_iff :
    Starts query name ↔
      (Text.lowerList query.toList).isPrefixOf (Text.lowerList name.toList) = true := by
  rw [Starts, Text.lower, Text.lower, String.toList_ofList, String.toList_ofList,
    List.isPrefixOf_iff_prefix]

theorem within_iff :
    Within query name ↔
      Text.occursIn (Text.lowerList query.toList) (Text.lowerList name.toList) = true := by
  rw [Within, Text.lower, Text.lower, String.toList_ofList, String.toList_ofList,
    Text.occursIn_iff]

instance (query name : String) : Decidable (Starts query name) := decidable_of_iff' _ starts_iff

instance (part whole : String) : Decidable (Within part whole) := decidable_of_iff' _ within_iff

/-- A name that starts with the query contains it as well. -/
theorem Starts.within (h : Starts query name) : Within query name := h.isInfix

theorem lower_eq_empty_iff : Text.lower query = "" ↔ Text.lowerList query.toList = [] := by
  rw [Text.lower, String.ofList_eq_empty_iff]

/-! ## Three lists -/

namespace Catalog

/-- Nothing is similar to an empty query, though every name starts with it. -/
theorem similarNames_of_empty (h : Text.lower query = "") (names : List String) :
    similarNames names query = [] := by
  rw [similarNames, lower_eq_empty_iff.mp h]
  rfl

/-- The suggestions are three passes over the names, each closer than the next. -/
theorem similarNames_of_not_empty (h : Text.lower query ≠ "") (names : List String) :
    similarNames names query = firstOccurrences
      (names.filter (Starts query) ++
        (names.filter (Within query) ++ names.filter (Within · query))) := by
  have hnot : (Text.lowerList query.toList).isEmpty = false := by
    rw [Bool.eq_false_iff, ne_eq, List.isEmpty_iff, ← lower_eq_empty_iff]
    exact h
  simp only [similarNames, hnot, Bool.false_eq_true, if_false, List.append_assoc, starts_iff,
    within_iff, Bool.decide_eq_true]

/-- No name is suggested twice, even if it is similar in more than one way. -/
theorem nodup_similarNames (names : List String) (query : String) :
    (similarNames names query).Nodup := by
  rw [similarNames]
  split
  · exact List.nodup_nil
  · exact nodup_firstOccurrences _

/-- Only registered names are suggested, and only those that contain the query or are contained in
it. -/
theorem similar_of_mem (h : name ∈ similarNames names query) :
    name ∈ names ∧ (Within query name ∨ Within name query) := by
  by_cases hquery : Text.lower query = ""
  · rw [similarNames_of_empty hquery] at h
    cases h
  · rw [similarNames_of_not_empty hquery, mem_firstOccurrences_iff] at h
    simp only [List.mem_append, List.mem_filter, decide_eq_true_iff] at h
    obtain ⟨hname, hstarts⟩ | ⟨hname, hwithin⟩ | ⟨hname, hwithin⟩ := h
    · exact ⟨hname, Or.inl hstarts.within⟩
    · exact ⟨hname, Or.inl hwithin⟩
    · exact ⟨hname, Or.inr hwithin⟩

/-- What one list has and an earlier one has not. -/
theorem filter_not_mem_filter (p q : String → Prop) [DecidablePred p] [DecidablePred q]
    (names : List String) :
    (names.filter q).filter (· ∉ names.filter p) = names.filter fun name => q name ∧ ¬ p name := by
  rw [List.filter_filter]
  apply List.filter_congr
  intro name hname
  simp [hname, Bool.and_comm]

/-- A name that starts with the query contains it, so the last list is not cut a second time. -/
theorem similarNames_eq (h : Text.lower query ≠ "") (hnames : names.Nodup) :
    similarNames names query =
      names.filter (Starts query) ++
        names.filter (fun name => Within query name ∧ ¬ Starts query name) ++
        names.filter fun name => Within name query ∧ ¬ Within query name := by
  have hlast : names.filter
        (fun name => (Within name query ∧ ¬ Within query name) ∧ ¬ Starts query name) =
      names.filter fun name => Within name query ∧ ¬ Within query name := by
    apply List.filter_congr
    intro name _
    apply decide_eq_decide.mpr
    exact and_iff_left_of_imp fun hname hstarts => hname.2 hstarts.within
  rw [similarNames_of_not_empty h, firstOccurrences_append (hnames.filter _),
    firstOccurrences_append (hnames.filter _), firstOccurrences_of_nodup (hnames.filter _),
    List.filter_append, filter_not_mem_filter, filter_not_mem_filter, filter_not_mem_filter, hlast,
    List.append_assoc]

theorem similar_eq_take (catalog : Catalog) (query : String) (limit : Nat) :
    catalog.similar query limit = (similarNames catalog.names query).take limit := by
  rw [similar, limited_natCast]

/-! ## The suggestions -/

/-- The suggestions after any changes are the first of one list: the names that start with the
query, then the others that contain it, then the others that it contains, each of them by arrival.
No name is in it twice, every name in it is present and similar, and a larger limit only adds to
the suggestions. An empty query is similar to nothing. -/
theorem similar_by_closeness (past : Changes) (query : String) :
    ∃ all : List String,
      (∀ limit : Nat, (after past).similar query limit = all.take limit) ∧
      (Text.lower query = "" → all = []) ∧
      (Text.lower query ≠ "" → ∃ opening inside around : List String,
        all = opening ++ inside ++ around ∧
        past.Lists (Starts query) opening ∧
        past.Lists (fun name => Within query name ∧ ¬ Starts query name) inside ∧
        past.Lists (fun name => Within name query ∧ ¬ Within query name) around) ∧
      all.Nodup ∧
      (∀ name ∈ all, (past.schema? name).isSome = true ∧
        (Within query name ∨ Within name query)) ∧
      ∀ fewer more : Nat, fewer ≤ more →
        (after past).similar query fewer <+: (after past).similar query more := by
  refine ⟨similarNames (after past).names query, similar_eq_take (after past) query,
    fun hempty => similarNames_of_empty hempty _, fun hquery => ?_, nodup_similarNames _ query,
    fun name hname => ?_, fun fewer more hle => ?_⟩
  · exact ⟨_, _, _, similarNames_eq hquery (after past).slots.nodup, lists_filter past _,
      lists_filter past _, lists_filter past _⟩
  · obtain ⟨hpresent, hsimilar⟩ := similar_of_mem hname
    exact ⟨(mem_names_after past name).mp hpresent, hsimilar⟩
  · rw [similar_eq_take, similar_eq_take]
    exact List.take_prefix_take_left hle

/-- The name that equals the query comes before those that contain it, and each name comes once. -/
example :
    (after [.register { name := "NEW" }, .register { name := "renew" },
      .register { name := "ew" }, .register { name := "newer" }, .register { name := "old" },
      .register { name := "" }]).similar "New" 9 = ["newer", "NEW", "renew", "", "ew"] := by
  decide +kernel

end Catalog

end SlashLine.Command
