import SlashLine.Numeric.Numeral
import SlashLine.Text.Blank
import SlashLine.Text.Radix
import SlashLine.Text.Search
import SlashLine.Text.Utf8
import SlashLine.Value

/-!
# Fields

How the values of configuration files and environment variables are read as whole numbers,
floating-point numbers, truth values and texts. Numbers and truth values may be given as texts.

* `Field.int`, `Field.float`, `Field.bool`, `Field.text`: the readings, each with its failures.
-/

namespace SlashLine.Config

/-- Why a value does not fit a field. -/
inductive Misfit where
  | intType
  | intParsing
  | intParsingSize
  | intFromFloat
  | finiteNumber
  | floatType
  | floatParsing
  | boolType
  | boolParsing
  | stringType
  /-- Bytes or letters that spell no text. -/
  | stringUnicode
  | modelType
  /-- The value was read, but is not allowed. -/
  | refused (reason : String)
  deriving DecidableEq, Repr

namespace Misfit

/-- The name of a kind of misfit. -/
def kind : Misfit → String
  | intType => "int_type"
  | intParsing => "int_parsing"
  | intParsingSize => "int_parsing_size"
  | intFromFloat => "int_from_float"
  | finiteNumber => "finite_number"
  | floatType => "float_type"
  | floatParsing => "float_parsing"
  | boolType => "bool_type"
  | boolParsing => "bool_parsing"
  | stringType => "string_type"
  | stringUnicode => "string_unicode"
  | modelType => "model_type"
  | refused _ => "value_error"

/-- The text of a refusal. -/
def message? : Misfit → Option String
  | refused reason => some ("Value error, " ++ reason)
  | _ => none

end Misfit

/-! ## Texts of numbers -/

/-- The blanks that may stand around a number: all but the four ASCII separators. -/
def isMargin (c : Char) : Bool := Text.isBlank c && !(0x1c ≤ c.toNat && c.toNat ≤ 0x1f)

/-- A text without the blanks around it. -/
def dropMargins (cs : List Char) : List Char :=
  ((cs.dropWhile isMargin).reverse.dropWhile isMargin).reverse

/-- A text without single underscores between its characters; none if there are others. -/
def dropUnderscores? (cs : List Char) : Option (List Char) :=
  if cs.head? == some '_' || cs.getLast? == some '_' || Text.occursIn ['_', '_'] cs then none
  else some (cs.filter (· != '_'))

/-! ### Whole numbers -/

/-- The most digits of a whole number. -/
def longestNumber : Nat := 4300

/-- A minus, if there is one, and what follows it. -/
def takeMinus : List Char → Bool × List Char
  | '-' :: rest => (true, rest)
  | cs => (false, cs)

/-- The digits of a whole number, and what follows them. No digit follows a zero. -/
def takeNumber : List Char → List Char × List Char
  | '0' :: rest => (['0'], rest)
  | cs => cs.span Char.isDigit

/-- The whole number that a text is without any ornament. That there are too many digits counts
before what follows them. -/
def plainInt (cs : List Char) : Except Misfit Int :=
  let (negative, unsigned) := takeMinus cs
  let (digits, rest) := takeNumber unsigned
  if longestNumber < digits.length then .error .intParsingSize
  else if digits.isEmpty || !rest.isEmpty then .error .intParsing
  else
    let n : Int := Text.numberOf 10 digits
    .ok (if negative then -n else n)

/-- Whether a text has a minus before it, and the text without that or a plus; none if a minus
follows a plus. -/
def dropSign? : List Char → Option (Bool × List Char)
  | '+' :: '-' :: _ => none
  | '+' :: rest => some (false, rest)
  | cs => some (takeMinus cs)

/-- A whole number without the zeros before it, and after a first zero also without underscores. A
minus may follow the zeros. One character is kept before a point and at the end. -/
def dropLeadingZeros? : List Char → Option (List Char)
  | '0' :: rest => dropMore '0' rest
  | c :: rest => if c.isDigit || c == '-' then some (c :: rest) else none
  | [] => none
where
  /-- The same after a zero or an underscore. -/
  dropMore (last : Char) : List Char → Option (List Char)
    | [] => some [last]
    | '.' :: rest => some (last :: '.' :: rest)
    | c :: rest =>
      if c == '0' || c == '_' then dropMore c rest
      else if c.isDigit || c == '-' then some (c :: rest) else none

/-- A number without its point and the zeros after it; none if there are none, or other characters
follow the point. -/
def dropZeroFraction? (cs : List Char) : Option (List Char) :=
  match cs.span (· != '.') with
  | (whole, '.' :: fraction) =>
    if !fraction.isEmpty && fraction.all (· == '0') then some whole else none
  | (whole, _) => some whole

/-- A text without what may adorn a whole number: blanks, a plus, zeros before and after it, and
underscores. A minus before it is kept. -/
def dropOrnaments? (cs : List Char) : Option (List Char) := do
  let (negative, unsigned) ← dropSign? (dropMargins cs)
  let bare ← dropUnderscores? (← dropZeroFraction? (← dropLeadingZeros? unsigned))
  return if negative then '-' :: bare else bare

/-- The whole number that a text spells. Only without ornaments it can be too long. -/
def intOfText (s : String) : Except Misfit Int :=
  match plainInt s.toList with
  | .error .intParsing =>
    match (dropOrnaments? s.toList).bind fun cs => (plainInt cs).toOption with
    | some n => .ok n
    | none => .error .intParsing
  | known => known

/-! ### Floating-point numbers -/

/-- The words for numbers that are not finite. -/
def specialNumber? (cs : List Char) : Option Binary64 :=
  let (negative, unsigned) := Numeral.takeSign cs
  let word := String.ofList (unsigned.map Char.toLower)
  if word == "inf" || word == "infinity" then some (.infinite negative)
  else if word == "nan" then some .nan
  else none

/-- The floating-point number that ASCII text spells. -/
def floatOfAscii? (cs : List Char) : Option Binary64 :=
  (specialNumber? cs).or
    (if cs.all (·.toNat < 0x80) then (Numeral.readList? cs).map Numeral.toBinary64 else none)

/-- The floating-point number that a text spells: with blanks around it, or with underscores in
it. -/
def floatOfText (s : String) : Except Misfit Binary64 :=
  match (floatOfAscii? (dropMargins s.toList)).or
      ((dropUnderscores? s.toList).bind floatOfAscii?) with
  | some x => .ok x
  | none => .error .floatParsing

/-! ### Truth values -/

/-- The words for false. -/
def falseWords : List String := ["0", "f", "n", "no", "off", "false"]

/-- The words for true. -/
def trueWords : List String := ["1", "t", "y", "on", "yes", "true"]

/-- The truth value that a text spells, in any letter case. -/
def boolOfText (s : String) : Except Misfit Bool :=
  let word := String.ofList (s.toList.map Char.toLower)
  if trueWords.contains word then .ok true
  else if falseWords.contains word then .ok false
  else .error .boolParsing

/-! ## The readings -/

namespace Field

/-- The whole numbers of a machine word. -/
def isWord (i : Int) : Bool := -0x8000000000000000 ≤ i && i < 0x8000000000000000

/-- The whole number that a floating-point number is, between the bounds of a machine word. -/
def intOfFloat (x : Binary64) : Except Misfit Int :=
  match x.truncate with
  | .error _ => .error .finiteNumber
  | .ok i =>
    if !x.isIntegral then .error .intFromFloat
    else if -0x8000000000000000 < i && i < 0x8000000000000000 then .ok i
    else .error .intParsingSize

/-- What is read from the text that bytes spell, unless they spell none. -/
def ofBytes {α : Type} (read : String → Except Misfit α) (otherwise : Misfit) (bytes : List UInt8) :
    Except Misfit α :=
  match Text.ofUtf8? bytes with
  | some s => read s
  | none => .error otherwise

/-- A whole number. -/
def int : Value → Except Misfit Int
  | .scalar (.int i) => .ok i
  | .scalar (.bool b) => .ok (if b then 1 else 0)
  | .scalar (.float x) => intOfFloat x
  | .scalar (.text s) => intOfText s
  | .scalar (.bytes bytes) => ofBytes intOfText .intParsing bytes
  | .scalar (.unpaired _) => .error .stringUnicode
  | _ => .error .intType

/-- A floating-point number. -/
def float : Value → Except Misfit Binary64
  | .scalar (.float x) => .ok x
  | .scalar (.bool b) => .ok (if b then .finite false Binary64.oneMagnitude else .zero false)
  | .scalar (.int i) =>
    match Binary64.ofInt? i with
    | some x => .ok x
    | none => .error .floatType
  | .scalar (.text s) => floatOfText s
  | .scalar (.bytes bytes) => ofBytes floatOfText .floatParsing bytes
  | .scalar (.unpaired _) => .error .stringUnicode
  | _ => .error .floatType

/-- The truth value that one of two numbers stands for. -/
def boolOfInt (i : Int) : Except Misfit Bool :=
  if i = 0 then .ok false else if i = 1 then .ok true else .error .boolParsing

/-- A truth value. -/
def bool : Value → Except Misfit Bool
  | .scalar (.bool b) => .ok b
  | .scalar (.text s) => boolOfText s
  | .scalar (.int i) => if isWord i then boolOfInt i else .error .boolType
  | .scalar (.float x) =>
    match intOfFloat x with
    | .ok i => boolOfInt i
    | .error _ => .error .boolType
  | .scalar (.bytes bytes) => ofBytes boolOfText .boolParsing bytes
  | .scalar (.unpaired _) => .error .stringUnicode
  | _ => .error .boolType

/-- A text. -/
def text : Value → Except Misfit String
  | .scalar (.text s) => .ok s
  | .scalar (.bytes bytes) => ofBytes .ok .stringUnicode bytes
  | .scalar (.unpaired letters) => .ok (String.ofList letters.chars)
  | _ => .error .stringType

end Field

end SlashLine.Config
