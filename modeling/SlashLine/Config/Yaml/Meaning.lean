import SlashLine.Config.Field
import SlashLine.Config.Trouble
import SlashLine.Config.Yaml.Tag
import SlashLine.Numeric.Arithmetic
import SlashLine.Text.Base64
import SlashLine.Text.LowerCase

/-!
# What texts stand for in YAML

The value of a text with a tag. A tag that is written out takes more texts than the form of plain
texts allows: numbers in any script and with blanks around them, words in any letter case.

* `Tag.read`: the value of a text.
-/

namespace SlashLine.Config.Yaml

/-! ## Numbers -/

/-- Letters without underscores. -/
def dropUnderscores (letters : Text.Letters) : Text.Letters := letters.filter (· != .char '_')

/-- A sign, if there is one, and what follows it. -/
def takeSign : Text.Letters → Bool × Text.Letters
  | .char '-' :: rest => (true, rest)
  | .char '+' :: rest => (false, rest)
  | letters => (false, letters)

/-- The parts of letters between colons. -/
def colonParts (letters : Text.Letters) : List Text.Letters := Tag.partsBetween (.char ':') letters

/-- The whole number that letters spell to a base. -/
def wholeOf (base : Nat) (letters : Text.Letters) : Except Trouble Int :=
  (Whole.read base letters.chars).mapError (.ofWhole base letters)

/-- The whole number that letters stand for: underscores do not count, a zero in front makes it
octal, and colons separate groups to the base sixty. -/
def intOf (letters : Text.Letters) : Except Trouble Int := do
  let (negative, digits) := takeSign (dropUnderscores letters)
  let n ← match digits with
    | [] => throw .emptyNumber
    | .char '0' :: .char 'b' :: ds => wholeOf 2 ds
    | .char '0' :: .char 'x' :: ds => wholeOf 16 ds
    | .char '0' :: _ => wholeOf 8 digits
    | _ => do
      let parts ← (colonParts digits).mapM (wholeOf 10)
      pure (parts.foldl (fun n part => 60 * n + part) 0)
  return if negative then -n else n

/-- The floating-point number that letters spell. -/
def decimalOf (letters : Text.Letters) : Except Trouble Binary64 :=
  let plain := letters.chars.map Whole.asciiOf
  let trimmed := ((plain.dropWhile Whole.isBlank).reverse.dropWhile Whole.isBlank).reverse
  match floatOfAscii? trimmed with
  | some x => .ok x
  | none => .error (.noDecimal letters)

/-- The sum of groups to the base sixty, of which the last one is given first and weighs `weight`.
A weight beyond every number is refused. -/
def sixtySum (sum : Binary64) (weight : Nat) : List Binary64 → Except Trouble Binary64
  | [] => .ok sum
  | group :: groups =>
    match Binary64.ofInt? weight with
    | none => .error .overflow
    | some w => sixtySum (sum.add (group.mul w)) (weight * 60) groups

/-- Characters in lower case. -/
def lowered (cs : List Char) : List Char := (Text.lower (String.ofList cs)).toList

/-- The floating-point number that letters stand for. -/
def floatOf (letters : Text.Letters) : Except Trouble Binary64 := do
  let bare := (dropUnderscores letters).mapRuns lowered
  if bare.isEmpty then throw .emptyNumber
  let (negative, digits) := takeSign bare
  let x ← if digits == .ofChars ".inf".toList then pure (.infinite false)
    else if digits == .ofChars ".nan".toList then pure .nan
    else match colonParts digits with
      | [digits] => decimalOf digits
      | parts => do sixtySum (.zero false) 1 (← parts.mapM decimalOf).reverse
  return if negative then x.negate else x

/-! ## Truth values and dates -/

/-- The words for truth values. -/
def truthValues : List (String × Bool) :=
  [("yes", true), ("no", false), ("true", true), ("false", false), ("on", true), ("off", false)]

/-- The truth value that a word stands for. -/
def boolOf (cs : List Char) : Except Trouble Bool :=
  match truthValues.find? fun (word, _) => word == Text.lower (String.ofList cs) with
  | some (_, b) => .ok b
  | none => .error .noTruth

/-- The date that a text stands for. -/
def momentOf (cs : List Char) : Except Trouble Scalar :=
  match writtenDate? (dropLastBreak cs) with
  | none => .error .noDate
  | some d =>
    match d.parts.timestamp with
    | .ok _ => .ok (.moment (String.ofList cs))
    | .error fault => .error (.badDate fault)

/-- The bytes that a text stands for. -/
def bytesOf (cs : List Char) : Except Trouble Scalar :=
  if cs.all (·.toNat < 0x80) then (orMalformed (Text.decodeBase64? cs)).map .bytes
  else .error .malformed

/-! ## All together -/

/-- The value of a text with a tag, which the text may have from the mapping around it. -/
def Tag.read (tag : Tag) (inMapping : Bool) (letters : Text.Letters) : Except Trouble Scalar :=
  let cs := letters.chars
  match tag with
  | .null => .ok .null
  | .bool => (boolOf cs).map .bool
  | .int => (intOf letters).map .int
  | .float => (floatOf letters).map .float
  | .bytes => bytesOf cs
  | .moment => if inMapping then .error .dateInMapping else momentOf cs
  | .text => .ok (.ofLetters letters)
  | _ => .error .malformed

end SlashLine.Config.Yaml
