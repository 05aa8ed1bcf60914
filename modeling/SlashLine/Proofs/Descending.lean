/-!
# Descending order

Sorting by rank, the highest first, moves members past others of a lower rank only: those of one
rank stay in the order they had. That is all the order of a list can tell about the sorted one.

* `pairwise_descending`: the ranks do not rise.
* `filter_descending`: the members of one rank are what they were.
* `descending_keeps`: what held between earlier and later members holds where ranks are equal.
-/

namespace SlashLine

variable {α : Type} (rank : α → Int)

/-- What comes before what is a preorder in which any two members compare. -/
theorem descending_trans (a b c : α) (hab : decide (rank b ≤ rank a) = true)
    (hbc : decide (rank c ≤ rank b) = true) : decide (rank c ≤ rank a) = true := by
  rw [decide_eq_true_eq] at hab hbc ⊢
  omega

theorem descending_total (a b : α) :
    (decide (rank b ≤ rank a) || decide (rank a ≤ rank b)) = true := by
  rw [Bool.or_eq_true, decide_eq_true_eq, decide_eq_true_eq]
  omega

/-- What is sorted by descending rank is in that order. -/
theorem pairwise_descending (xs : List α) :
    (xs.mergeSort fun a b => rank b ≤ rank a).Pairwise fun a b => rank b ≤ rank a := by
  have hsorted := List.pairwise_mergeSort (descending_trans rank) (descending_total rank) xs
  exact hsorted.imp of_decide_eq_true

/-- Sorting keeps the order of the members of one rank, which are in order already. -/
theorem filter_descending (xs : List α) (r : Int) :
    (xs.mergeSort fun a b => rank b ≤ rank a).filter (fun a => rank a = r) =
      xs.filter fun a => rank a = r := by
  have hsorted : (xs.filter fun a => rank a = r).Pairwise
      fun a b => decide (rank b ≤ rank a) = true := by
    apply List.pairwise_of_forall_mem_list
    intro a ha b hb
    rw [of_decide_eq_true (List.mem_filter.mp ha).2, of_decide_eq_true (List.mem_filter.mp hb).2]
    exact decide_eq_true (Int.le_refl r)
  have hsublist := (List.sublist_mergeSort (descending_trans rank) (descending_total rank) hsorted
    List.filter_sublist).filter fun a => rank a = r
  rw [List.filter_filter] at hsublist
  simp only [Bool.and_self] at hsublist
  have hlength := ((List.mergeSort_perm xs fun a b => decide (rank b ≤ rank a)).filter
    fun a => rank a = r).length_eq
  exact (hsublist.eq_of_length hlength.symm).symm

/-- Two members of one rank are in the sorted list as they were before. -/
theorem descending_keeps {r : α → α → Prop} {xs : List α} (h : xs.Pairwise r) :
    (xs.mergeSort fun a b => rank b ≤ rank a).Pairwise
      fun a b => rank b < rank a ∨ rank a = rank b ∧ r a b := by
  apply List.pairwise_iff_forall_sublist.mpr
  intro a b hab
  have hle : rank b ≤ rank a :=
    List.pairwise_iff_forall_sublist.mp (pairwise_descending rank xs) hab
  rcases Int.lt_or_eq_of_le hle with hlt | heq
  · exact Or.inl hlt
  · have hsame := hab.filter fun x => rank x = rank a
    rw [filter_descending] at hsame
    have hboth : [a, b].filter (fun x => rank x = rank a) = [a, b] := by simp [heq]
    rw [hboth] at hsame
    have hbefore := hsame.trans List.filter_sublist
    exact Or.inr ⟨heq.symm, List.pairwise_iff_forall_sublist.mp h hbefore⟩

end SlashLine
