import SlashLine.Text.Blank
import SlashLine.Text.LowerCase

/-!
# Near duplicates

Two texts are near duplicates if they agree up to letter case and blanks, or if matching blocks
cover more than four fifths of both. The blocks are found greedily: the longest common block first,
the earliest of those, then the same before and after it. In a long second text, characters that
are very frequent start no block; they only extend one.
-/

namespace SlashLine.Output

/-! ## Normal form -/

/-- A text with every run of blanks replaced by one space. -/
def collapseBlanks : List Char → List Char
  | [] => []
  | c :: cs =>
    if Text.isBlank c then
      match collapseBlanks cs with
      | ' ' :: rest => ' ' :: rest
      | rest => ' ' :: rest
    else c :: collapseBlanks cs

/-- A text in lower case, with single spaces between its words. -/
def normalize (cs : List Char) : List Char :=
  Text.trimList (collapseBlanks (Text.lowerList cs))

/-! ## Blocks -/

/-- A character of the second text, and whether a block may start from it. -/
abbrev Seed := Char × Bool

/-- The characters of a second text. From 200 characters on, those that make up more than a
hundredth of it start no block. -/
def seeds (b : List Char) : List Seed :=
  if b.length < 200 then b.map fun c => (c, true)
  else b.map fun c => (c, b.count c ≤ b.length / 100 + 1)

/-- A block of the given size that starts at two places. -/
structure Block where
  first : Nat
  second : Nat
  size : Nat
  deriving DecidableEq, Repr

/-- For each place of the second text the length of the block that ends there and at the character
`c` of the first text, from the lengths for the character before `c`. -/
def runLengths (c : Char) (before : List Nat) (b : List Seed) : List Nat :=
  List.zipWith (fun (d, isSeed) n => if isSeed && d == c then n + 1 else 0) b (0 :: before)

/-- The longest block so far, after the blocks that end at place `i` of the first text and at the
places of the second text from `j` on. A later block has to be longer. -/
def longestInRow (i : Nat) (best : Block) : (j : Nat) → List Nat → Block
  | _, [] => best
  | j, n :: ns =>
    longestInRow i (if best.size < n then ⟨i + 1 - n, j + 1 - n, n⟩ else best) (j + 1) ns

/-- The longest block of seeds, from place `i` of the first text on. -/
def longestSeedBlock (b : List Seed) (best : Block) (before : List Nat) :
    (i : Nat) → List Char → Block
  | _, [] => best
  | i, c :: cs =>
    let row := runLengths c before b
    longestSeedBlock b (longestInRow i best 0 row) row (i + 1) cs

/-- How many characters two texts have in common at their start. -/
def commonStart : List Char → List Seed → Nat
  | c :: cs, (d, _) :: ds => if c == d then commonStart cs ds + 1 else 0
  | _, _ => 0

/-- A block extended as far as the texts agree before and after it. -/
def extendBlock (a : List Char) (b : List Seed) (block : Block) : Block :=
  let back := commonStart (a.take block.first).reverse (b.take block.second).reverse
  let ahead := commonStart (a.drop (block.first + block.size)) (b.drop (block.second + block.size))
  ⟨block.first - back, block.second - back, back + block.size + ahead⟩

/-- The longest block of seeds, the earliest of those, extended. -/
def longestBlock (a : List Char) (b : List Seed) : Block :=
  extendBlock a b (longestSeedBlock b ⟨0, 0, 0⟩ (b.map fun _ => 0) 0 a)

/-- How many characters the matching blocks cover. -/
def matchedSize (a : List Char) (b : List Seed) : Nat :=
  match longestBlock a b with
  | ⟨i, j, k⟩ =>
    if _h : 0 < k ∧ i + k ≤ a.length then
      matchedSize (a.take i) (b.take j) + k + matchedSize (a.drop (i + k)) (b.drop (j + k))
    else 0
termination_by a.length
decreasing_by
  all_goals simp only [List.length_take, List.length_drop]; omega

/-! ## Duplicates -/

/-- The matching blocks of two texts cover more than four fifths of them. -/
def isSimilar (a b : List Char) : Bool :=
  4 * (a.length + b.length) < 10 * matchedSize a (seeds b)

/-- A new text says no more than one that is there already. -/
def isNearDuplicate (existing new : String) : Bool :=
  let a := normalize existing.toList
  let b := normalize new.toList
  a == b || isSimilar a b

end SlashLine.Output
