import SlashLine.Command.Schema
import SlashLine.Limit
import SlashLine.Text.LowerCase
import SlashLine.Text.Search

/-!
# Similar names

Names to suggest for one that is not known, letter case aside: those that start with it, then those
that contain it, then those that it contains.

* `mem_firstOccurrences_iff`, `nodup_firstOccurrences`: every member is kept, and kept once.
* `firstOccurrences_append`: what comes later is left out where it stood before.
-/

namespace SlashLine.Command

/-- The members of a list, each where it stands first. -/
def firstOccurrences {α : Type} [DecidableEq α] : List α → List α
  | [] => []
  | x :: xs => x :: (firstOccurrences xs).filter (· ≠ x)

section

variable {α : Type} [DecidableEq α] {xs : List α}

theorem mem_firstOccurrences_iff {y : α} : y ∈ firstOccurrences xs ↔ y ∈ xs := by
  induction xs with
  | nil => rfl
  | cons x xs ih =>
    rw [firstOccurrences, List.mem_cons, List.mem_cons, List.mem_filter, ih, decide_eq_true_iff]
    by_cases hy : y = x
    · simp [hy]
    · simp [hy]

theorem nodup_firstOccurrences (xs : List α) : (firstOccurrences xs).Nodup := by
  induction xs with
  | nil => exact List.nodup_nil
  | cons x xs ih =>
    refine List.nodup_cons.mpr ⟨fun hx => ?_, ih.filter _⟩
    exact of_decide_eq_true (List.mem_filter.mp hx).2 rfl

theorem firstOccurrences_append (hxs : xs.Nodup) (ys : List α) :
    firstOccurrences (xs ++ ys) = xs ++ (firstOccurrences ys).filter (· ∉ xs) := by
  induction xs with
  | nil => exact (List.filter_eq_self.mpr fun y _ => decide_eq_true List.not_mem_nil).symm
  | cons x xs ih =>
    obtain ⟨hx, hrest⟩ := List.nodup_cons.mp hxs
    have hkept : xs.filter (· ≠ x) = xs := by
      apply List.filter_eq_self.mpr
      intro y hy
      exact decide_eq_true fun heq => hx (heq ▸ hy)
    have hlater : ((firstOccurrences ys).filter (· ∉ xs)).filter (· ≠ x) =
        (firstOccurrences ys).filter (· ∉ x :: xs) := by
      rw [List.filter_filter]
      apply List.filter_congr
      intro y _
      simp
    rw [List.cons_append, firstOccurrences, ih hrest, List.filter_append, hkept, hlater,
      List.cons_append]

theorem firstOccurrences_of_nodup (hxs : xs.Nodup) : firstOccurrences xs = xs := by
  have happend := firstOccurrences_append hxs []
  rwa [List.append_nil, firstOccurrences, List.filter_nil, List.append_nil] at happend

end

namespace Catalog

/-- All names that are similar to a query, the closest first. -/
def similarNames (names : List String) (query : String) : List String :=
  let q := Text.lowerList query.toList
  let low (name : String) := Text.lowerList name.toList
  if q.isEmpty then []
  else firstOccurrences
    (names.filter (fun n => q.isPrefixOf (low n)) ++
      names.filter (fun n => Text.occursIn q (low n)) ++
      names.filter (fun n => Text.occursIn (low n) q))

/-- The names to suggest for a query, up to a limit. -/
def similar (catalog : Catalog) (query : String) (limit : Int) : List String :=
  limited limit (similarNames catalog.names query)

/-- How many names are suggested where no limit is given. -/
def usualSuggestions : Int := 3

end Catalog

end SlashLine.Command
