import SlashLine.Numeric.Shortest
import SlashLine.Text.Letters

/-!
# Plain values

The values that need no structure: nothing, truth values, whole numbers, floating-point numbers and
texts. They are defaults of flags, what a flag is read as, and the leaves of configuration files,
where dates and bytes join them.
-/

namespace SlashLine

/-- A plain value. -/
inductive Scalar where
  | null
  | bool (b : Bool)
  | int (i : Int)
  | float (x : Binary64)
  | text (s : String)
  /-- A date or a time, as it is written. -/
  | moment (s : String)
  | bytes (b : List UInt8)
  /-- A text with halves of characters in it. -/
  | unpaired (letters : Text.Letters)
  deriving DecidableEq

namespace Scalar

instance : Inhabited Scalar := ⟨null⟩

/-- Floating-point numbers are written with the point in place from `0.0001` on and below `1e16`,
always with a fraction, and with an exponent of at least two digits otherwise. -/
def floatStyle : DecimalStyle := ⟨-4, 16, 2, ".0", "nan", "inf"⟩

/-- The text of a value, with a character for unknown ones in place of halves. -/
def render : Scalar → String
  | null => "None"
  | bool b => if b then "True" else "False"
  | int i => toString i
  | float x => floatStyle.write x
  | text s => s
  | moment s => s
  | bytes b => String.ofList (b.map fun byte => Char.ofNat byte.toNat)
  | unpaired letters => String.ofList letters.chars

/-- The text that letters spell. -/
def ofLetters (letters : Text.Letters) : Scalar :=
  if letters.isWhole then text (String.ofList letters.chars) else unpaired letters

/-- There is no value. -/
def isNull : Scalar → Bool
  | null => true
  | _ => false

end Scalar

end SlashLine
