/-!
# Limits on lists

A limit keeps the first so many members of a list. A negative limit leaves out so many at the end.

* `limited_natCast`: a limit that is not negative is a count.
-/

namespace SlashLine

/-- The members a limit keeps. -/
def limited {α : Type} (limit : Int) (xs : List α) : List α :=
  if 0 ≤ limit then xs.take limit.toNat else xs.take (xs.length - (-limit).toNat)

/-- The members an optional limit keeps: all of them if there is none. -/
def limitedBy {α : Type} (limit : Option Int) (xs : List α) : List α :=
  match limit with
  | some n => limited n xs
  | none => xs

theorem limited_natCast {α : Type} (n : Nat) (xs : List α) : limited n xs = xs.take n := by
  simp [limited]

end SlashLine
