import SlashLine.Text.Word.Table

/-!
# Word characters

The characters of a name as they may follow `@` in a mention: letters and numbers of every script,
and the underscore.
-/

namespace SlashLine.Text

/-- A number lies in one of the closed ranges. -/
def inRanges (ranges : List (Nat × Nat)) (n : Nat) : Bool :=
  ranges.any fun (first, last) => first ≤ n && n ≤ last

/-- Letters, numbers and the underscore. -/
def isWordChar (c : Char) : Bool :=
  if c.toNat < 0x80 then c.isAlphanum || c == '_' else inRanges wordRanges c.toNat

end SlashLine.Text
