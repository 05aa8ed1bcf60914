import SlashLine.Numeric.Whole
import SlashLine.Text.Quoted
import SlashLine.Timestamp

/-!
# Troubles with configuration texts

Why the text of a configuration file has no value. Most texts without one break the rules of their
format; others keep them, but hold a number, a date or a word that stands for nothing.

* `Trouble.message`: what is said about one.
-/

namespace SlashLine.Config

/-- Why a text has no value. -/
inductive Trouble where
  /-- The rules of the format are broken. -/
  | malformed
  /-- Lists and mappings lie in each other too deep. -/
  | tooDeep
  /-- A whole number has so many digits, more than are read. -/
  | tooLong (digits : Nat)
  /-- A text stands for a whole number to a base, but spells none. -/
  | noWhole (base : Nat) (text : Text.Letters)
  /-- A text stands for a floating-point number, but spells none. -/
  | noDecimal (text : Text.Letters)
  /-- A text stands for a number, but is empty. -/
  | emptyNumber
  /-- A text stands for a truth value, but is no word for one. -/
  | noTruth
  /-- A text stands for a date, but has another form. -/
  | noDate
  /-- There is no date, time or zone of this kind. -/
  | badDate (fault : Timestamp.Fault)
  /-- A date is given by a mapping. -/
  | dateInMapping
  /-- The weight of a group of digits is beyond every number. -/
  | overflow
  /-- No character has the number. -/
  | noCharacter
  /-- The number of a character is beyond 31 bits. -/
  | hugeCharacter
  deriving DecidableEq, Repr

namespace Trouble

/-- The trouble with a whole number. -/
def ofWhole (base : Nat) (text : Text.Letters) : Whole.Fault → Trouble
  | .form => noWhole base text
  | .length digits => tooLong digits

/-- A value in quotes, cut off after 200 characters. -/
def shown (text : Text.Letters) : String :=
  String.ofList ((Text.quotedLetters text).toList.take 200)

/-- What is said about a trouble. -/
def message : Trouble → String
  | malformed => "The configuration file is malformed"
  | tooDeep => "maximum recursion depth exceeded"
  | tooLong digits =>
    "Exceeds the limit (" ++ toString Whole.longest ++
      " digits) for integer string conversion: value has " ++ toString digits ++
      " digits; use sys.set_int_max_str_digits() to increase the limit"
  | noWhole base text =>
    "invalid literal for int() with base " ++ toString base ++ ": " ++ shown text
  | noDecimal text => "could not convert string to float: " ++ Text.quotedLetters text
  | emptyNumber => "string index out of range"
  | noTruth => "The word stands for no truth value"
  | noDate => "The text is no date"
  | badDate fault => fault.message
  | dateInMapping => "expected string or bytes-like object, got 'list'"
  | overflow => "int too large to convert to float"
  | noCharacter => "chr() arg not in range(0x110000)"
  | hugeCharacter => "Python int too large to convert to C int"

end Trouble

/-- What a reader finds, or the trouble that it is none. -/
def orMalformed {α : Type} : Option α → Except Trouble α
  | some x => .ok x
  | none => .error .malformed

end SlashLine.Config
