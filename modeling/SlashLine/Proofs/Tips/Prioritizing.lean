import SlashLine.Proofs.Descending
import SlashLine.Tips

/-!
# Tips by priority

A tip that repeats the title and the content of an earlier one is left out, also if its priority is
higher. What is left is sorted by priority, and since sorting is stable, two tips of one priority
are as they came.

* `Tip.FirstAt`: the place where a tip stands for the first time.
* `Tip.mem_distinct_iff`, `Tip.pairwise_distinct`: the tips without repetitions, as they came.
* `Tip.prioritize_first_of_each`: the tips by priority, with and without a limit.
-/

namespace SlashLine.Tip

/-- A tip is at a place, and its title and content are at no earlier one. -/
structure FirstAt (tips : List Tip) (i : Nat) (tip : Tip) : Prop where
  here : tips[i]? = some tip
  fresh : ∀ j < i, ∀ other, tips[j]? = some other → other.gist ≠ tip.gist

/-- Both tips are there, and one came first. -/
def CameBefore (tips : List Tip) (earlier later : Tip) : Prop :=
  ∃ i j, FirstAt tips i earlier ∧ FirstAt tips j later ∧ i < j

/-- One tip is to be shown before another: it has a higher priority, or the same one and came
first. -/
def Precedes (tips : List Tip) (first second : Tip) : Prop :=
  second.priority < first.priority ∨
    first.priority = second.priority ∧ CameBefore tips first second

variable {tips rest : List Tip} {tip other : Tip} {i : Nat}

theorem firstAt_zero_iff : FirstAt (tip :: rest) 0 other ↔ other = tip := by
  constructor
  · intro h
    exact (Option.some.inj h.here).symm
  · rintro rfl
    exact ⟨rfl, fun j hj => absurd hj (Nat.not_lt_zero j)⟩

theorem firstAt_succ_iff :
    FirstAt (tip :: rest) (i + 1) other ↔ FirstAt rest i other ∧ other.gist ≠ tip.gist := by
  constructor
  · intro h
    refine ⟨⟨h.here, fun j hj => h.fresh (j + 1) (by omega)⟩, ?_⟩
    exact (h.fresh 0 (by omega) tip rfl).symm
  · rintro ⟨h, hne⟩
    refine ⟨h.here, fun j hj earlier hearlier => ?_⟩
    cases j with
    | zero =>
      cases hearlier
      exact hne.symm
    | succ j => exact h.fresh j (by omega) earlier hearlier

theorem CameBefore.cons {earlier later : Tip} (h : CameBefore rest earlier later)
    (hearlier : earlier.gist ≠ tip.gist) (hlater : later.gist ≠ tip.gist) :
    CameBefore (tip :: rest) earlier later := by
  obtain ⟨i, j, hi, hj, hlt⟩ := h
  exact ⟨i + 1, j + 1, firstAt_succ_iff.mpr ⟨hi, hearlier⟩, firstAt_succ_iff.mpr ⟨hj, hlater⟩,
    by omega⟩

/-- Of two tips with the same gist only the first is among the distinct ones, so none comes before
the other. -/
theorem CameBefore.gist_ne {earlier later : Tip} (h : CameBefore tips earlier later) :
    earlier.gist ≠ later.gist := by
  obtain ⟨i, j, hi, hj, hlt⟩ := h
  exact hj.fresh i hlt earlier hi.here

/-! ## Tips without repetitions -/

theorem mem_distinct_cons :
    other ∈ distinct (tip :: rest) ↔
      other = tip ∨ other ∈ distinct rest ∧ other.gist ≠ tip.gist := by
  rw [distinct, List.mem_cons, List.mem_filter, decide_eq_true_iff]

/-- What is left of the tips are those that are the first ones of their gist. -/
theorem mem_distinct_iff : other ∈ distinct tips ↔ ∃ i, FirstAt tips i other := by
  induction tips with
  | nil =>
    constructor
    · intro h
      cases h
    · rintro ⟨i, h⟩
      cases h.here
  | cons tip rest ih =>
    rw [mem_distinct_cons, ih]
    constructor
    · rintro (heq | ⟨⟨i, h⟩, hne⟩)
      · exact ⟨0, firstAt_zero_iff.mpr heq⟩
      · exact ⟨i + 1, firstAt_succ_iff.mpr ⟨h, hne⟩⟩
    · rintro ⟨i, h⟩
      cases i with
      | zero => exact Or.inl (firstAt_zero_iff.mp h)
      | succ i =>
        obtain ⟨hrest, hne⟩ := firstAt_succ_iff.mp h
        exact Or.inr ⟨⟨i, hrest⟩, hne⟩

/-- The first tip came before all others, and what is left out after it changes nothing between the
others. -/
theorem pairwise_distinct (tips : List Tip) : (distinct tips).Pairwise (CameBefore tips) := by
  induction tips with
  | nil => exact List.Pairwise.nil
  | cons tip rest ih =>
    rw [distinct]
    apply List.pairwise_cons.mpr
    constructor
    · intro later hlater
      obtain ⟨hmem, hne⟩ := List.mem_filter.mp hlater
      obtain ⟨i, hi⟩ := mem_distinct_iff.mp hmem
      exact ⟨0, i + 1, firstAt_zero_iff.mpr rfl,
        firstAt_succ_iff.mpr ⟨hi, of_decide_eq_true hne⟩, by omega⟩
    · apply (ih.filter _).imp_of_mem
      intro earlier later hearlier hlater h
      exact h.cons (of_decide_eq_true (List.mem_filter.mp hearlier).2)
        (of_decide_eq_true (List.mem_filter.mp hlater).2)

theorem nodup_gist_distinct (tips : List Tip) : ((distinct tips).map gist).Nodup :=
  List.pairwise_map.mpr ((pairwise_distinct tips).imp CameBefore.gist_ne)

/-- Where no gist is repeated every tip is left. -/
theorem distinct_of_nodup (h : (tips.map gist).Nodup) : distinct tips = tips := by
  induction tips with
  | nil => rfl
  | cons tip rest ih =>
    obtain ⟨htip, hrest⟩ := List.nodup_cons.mp h
    rw [distinct, ih hrest, List.cons_inj_right]
    apply List.filter_eq_self.mpr
    intro later hlater
    exact decide_eq_true fun heq => htip (heq ▸ List.mem_map_of_mem hlater)

/-! ## Tips by priority -/

/-- Without a limit the priority changes nothing but the order. -/
theorem prioritize_perm (tips : List Tip) : (prioritize tips none).Perm (distinct tips) :=
  List.mergeSort_perm _ _

theorem nodup_gist_prioritize (tips : List Tip) : ((prioritize tips none).map gist).Nodup :=
  ((prioritize_perm tips).map gist).nodup_iff.mpr (nodup_gist_distinct tips)

theorem pairwise_prioritize (tips : List Tip) :
    (prioritize tips none).Pairwise fun a b => b.priority ≤ a.priority :=
  pairwise_descending priority _

theorem prioritize_eq_limitedBy (tips : List Tip) (limit : Option Int) :
    prioritize tips limit = limitedBy limit (prioritize tips none) := rfl

/-- Tips without repetitions that are in order are only cut off. -/
theorem prioritize_of_ordered (hnodup : (tips.map gist).Nodup)
    (hsorted : tips.Pairwise fun a b => b.priority ≤ a.priority) (limit : Option Int) :
    prioritize tips limit = limitedBy limit tips := by
  rw [prioritize, distinct_of_nodup hnodup, List.mergeSort_of_pairwise (hsorted.imp decide_eq_true)]

/-- What is in order already stays so, and a limit may wait until then. -/
theorem prioritize_prioritize (tips : List Tip) (limit : Option Int) :
    prioritize (prioritize tips none) limit = prioritize tips limit := by
  rw [prioritize_of_ordered (nodup_gist_prioritize tips) (pairwise_prioritize tips),
    ← prioritize_eq_limitedBy]

theorem prioritize_natCast (tips : List Tip) (limit : Nat) :
    prioritize tips (some limit) = (prioritize tips none).take limit :=
  limited_natCast limit _

/-- A limit that is no slice from the end cuts off nothing the second time. -/
theorem prioritize_prioritize_natCast (tips : List Tip) (limit : Nat) :
    prioritize (prioritize tips (some limit)) (some limit) = prioritize tips (some limit) := by
  have hnodup : (((prioritize tips none).take limit).map gist).Nodup := by
    rw [List.map_take]
    exact (nodup_gist_prioritize tips).take
  have hsorted := (pairwise_prioritize tips).take (i := limit)
  rw [prioritize_natCast tips, prioritize_of_ordered hnodup hsorted]
  show limited (limit : Int) _ = _
  rw [limited_natCast, List.take_take, Nat.min_self]

/-- The tips by priority are the first of each title and content, once, and any two of them are in
order of priority and then as they came. A limit keeps the first so many, so that nothing that is
cut off has a higher priority than something that is kept. Tips that are in order stay so, also when
they were cut off before. -/
theorem prioritize_first_of_each (tips : List Tip) :
    (∀ tip, tip ∈ prioritize tips none ↔ ∃ i, FirstAt tips i tip) ∧
      ((prioritize tips none).map gist).Nodup ∧
      (prioritize tips none).Pairwise (Precedes tips) ∧
      (∀ limit : Nat,
        prioritize tips (some limit) = (prioritize tips none).take limit ∧
        (∀ kept ∈ (prioritize tips none).take limit, ∀ cut ∈ (prioritize tips none).drop limit,
          cut.priority ≤ kept.priority) ∧
        prioritize (prioritize tips none) (some limit) = prioritize tips (some limit) ∧
        prioritize (prioritize tips (some limit)) (some limit) = prioritize tips (some limit)) ∧
      prioritize (prioritize tips none) none = prioritize tips none := by
  refine ⟨fun tip => ?_, nodup_gist_prioritize tips, ?_,
    fun limit => ⟨prioritize_natCast tips limit, ?_, ?_, ?_⟩, ?_⟩
  · rw [(prioritize_perm tips).mem_iff, mem_distinct_iff]
  · exact descending_keeps priority (pairwise_distinct tips)
  · have hsorted := pairwise_prioritize tips
    rw [← List.take_append_drop limit (prioritize tips none)] at hsorted
    exact (List.pairwise_append.mp hsorted).2.2
  · exact prioritize_prioritize tips (some limit)
  · exact prioritize_prioritize_natCast tips limit
  · exact prioritize_prioritize tips none

/-- A repetition does not lift a tip, and of one priority the earlier tip comes first. -/
example :
    prioritize
        [{ title := "b", content := "1" }, { title := "a", content := "1", priority := 2 },
          { title := "b", content := "1", priority := 9 }, { title := "c", content := "1" },
          { title := "d", content := "1", priority := 2 }] (some 3) =
      [{ title := "a", content := "1", priority := 2 },
        { title := "d", content := "1", priority := 2 }, { title := "b", content := "1" }] := by
  cbv

end SlashLine.Tip
