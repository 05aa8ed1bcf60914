/-!
# Spelled texts

Formats that spell characters by their numbers can spell half of a pair that stands for one
character. Where such a half stands alone, the text is none that can be written.
-/

namespace SlashLine.Text

/-- A letter as it is spelled. -/
inductive Letter where
  | char (c : Char)
  /-- Half a pair that stands alone, by its number. -/
  | half (code : Nat)
  deriving DecidableEq, Repr

/-- The letters of a text as they are spelled. -/
abbrev Letters := List Letter

namespace Letter

/-- A number that is half of a pair. -/
def isHalf (n : Nat) : Bool := 0xd800 ≤ n && n ≤ 0xdfff

/-- The letter with a number. -/
def ofCode (n : Nat) : Letter := if isHalf n then half n else char (Char.ofNat n)

/-- The character, if it is one. -/
def char? : Letter → Option Char
  | char c => some c
  | half _ => none

end Letter

namespace Letters

/-- The letters of a text. -/
def ofChars (cs : List Char) : Letters := cs.map .char

/-- Every letter is a character. -/
def isWhole (letters : Letters) : Bool := letters.all (·.char?.isSome)

/-- The characters, with one for unknown characters in place of halves. -/
def chars (letters : Letters) : List Char := letters.map (·.char?.getD '\ufffd')

/-- The letters with each run of characters between halves replaced. -/
def mapRuns (f : List Char → List Char) (letters : Letters) : Letters :=
  go [] letters
where
  /-- The same after a run of characters, the newest first. -/
  go (run : List Char) : Letters → Letters
    | [] => ofChars (f run.reverse)
    | .char c :: rest => go (c :: run) rest
    | .half n :: rest => ofChars (f run.reverse) ++ .half n :: go [] rest

end Letters

end SlashLine.Text
