import SlashLine.Config.Trouble
import SlashLine.Value

/-!
# JSON texts

The value a JSON text spells. Besides the standard's numbers the words `NaN`, `Infinity` and
`-Infinity` are numbers; a key that is repeated keeps its first place and its last value.

* `read`: the value of a text.
-/

namespace SlashLine.Config.Json

/-- What stands between the parts of a JSON text. -/
def isSpace (c : Char) : Bool := c == ' ' || c == '\t' || c == '\n' || c == '\r'

/-- A text without the spaces it starts with. -/
def skipSpace (cs : List Char) : List Char := cs.dropWhile isSpace

/-! ## Strings -/

/-- The number that four digits to the base 16 spell, and what follows. -/
def takeHex4? : List Char → Option (Nat × List Char)
  | a :: b :: c :: d :: rest =>
    let digits := [a, b, c, d]
    if digits.all (Text.isDigitOf 16) then some (Text.numberOf 16 digits, rest) else none
  | _ => none

/-- The first half of a pair of escapes for one character. -/
def isHighHalf (n : Nat) : Bool := 0xd800 ≤ n && n ≤ 0xdbff

/-- The second half of a pair of escapes for one character. -/
def isLowHalf (n : Nat) : Bool := 0xdc00 ≤ n && n ≤ 0xdfff

/-- The character that two halves spell. -/
def joined (high low : Nat) : Char :=
  Char.ofNat (0x10000 + (high - 0xd800) * 0x400 + (low - 0xdc00))

/-- The letter of an escape by number, and what follows. Two halves in a row are one character. -/
def takeEscapedCode? (cs : List Char) : Option (Text.Letter × List Char) := do
  let (n, rest) ← takeHex4? cs
  let second : Option (Nat × List Char) :=
    match rest with
    | '\\' :: 'u' :: more => (takeHex4? more).filter fun (m, _) => isHighHalf n && isLowHalf m
    | _ => none
  match second with
  | some (m, rest) => return (.char (joined n m), rest)
  | none => return (Text.Letter.ofCode n, rest)

/-- The character of an escape that a letter names. -/
def namedEscape? : Char → Option Char
  | '"' => some '"'
  | '\\' => some '\\'
  | '/' => some '/'
  | 'b' => some '\x08'
  | 'f' => some '\x0c'
  | 'n' => some '\n'
  | 'r' => some '\r'
  | 't' => some '\t'
  | _ => none

/-- The rest of a string up to its closing quote, and what follows. The first argument bounds the
number of characters. -/
def takeString? : Nat → List Char → Option (Text.Letters × List Char)
  | 0, _ => none
  | _ + 1, [] => none
  | _ + 1, '"' :: rest => some ([], rest)
  | fuel + 1, '\\' :: 'u' :: rest => do
    let (c, rest) ← takeEscapedCode? rest
    let (s, rest) ← takeString? fuel rest
    some (c :: s, rest)
  | fuel + 1, '\\' :: e :: rest => do
    let c ← namedEscape? e
    let (s, rest) ← takeString? fuel rest
    some (.char c :: s, rest)
  | _ + 1, ['\\'] => none
  | fuel + 1, c :: rest =>
    if c.toNat < 0x20 then none
    else do
      let (s, rest) ← takeString? fuel rest
      some (.char c :: s, rest)

/-- The rest of a string after its opening quote, and what follows. The first argument bounds the
number of characters. -/
def takeText (fuel : Nat) (cs : List Char) : Except Trouble (Scalar × List Char) :=
  match takeString? fuel cs with
  | some (letters, rest) => .ok (.ofLetters letters, rest)
  | none => .error .malformed

/-! ## Numbers -/

/-- The ASCII digits a text starts with, and what follows. -/
def spanDigits (cs : List Char) : List Char × List Char :=
  (cs.takeWhile Char.isDigit, cs.dropWhile Char.isDigit)

/-- The whole part of a number: a zero alone, or digits that do not start with one. -/
def takeWhole? : List Char → Option (List Char × List Char)
  | '0' :: rest => some (['0'], rest)
  | c :: rest => if c.isDigit then some (spanDigits (c :: rest)) else none
  | [] => none

/-- A point and digits, if they are there. -/
def takeFraction (cs : List Char) : List Char × List Char :=
  match cs with
  | '.' :: rest =>
    match spanDigits rest with
    | ([], _) => ([], cs)
    | (ds, rest) => ('.' :: ds, rest)
  | _ => ([], cs)

/-- A power of ten, if one is there. -/
def takePower (cs : List Char) : List Char × List Char :=
  match cs with
  | e :: rest =>
    if e == 'e' || e == 'E' then
      let (sign, rest) := match rest with
        | '-' :: more => (['-'], more)
        | '+' :: more => (['+'], more)
        | more => ([], more)
      match spanDigits rest with
      | ([], _) => ([], cs)
      | (ds, rest) => (e :: sign ++ ds, rest)
    else ([], cs)
  | [] => ([], cs)

/-- A number, and what follows. With a point or a power of ten it is a floating-point number. -/
def takeNumber (cs : List Char) : Except Trouble (Scalar × List Char) := do
  let (negative, unsigned) := match cs with
    | '-' :: rest => (true, rest)
    | rest => (false, rest)
  let some (whole, rest) := takeWhole? unsigned | throw .malformed
  let (fraction, rest) := takeFraction rest
  let (power, rest) := takePower rest
  if fraction.isEmpty && power.isEmpty then
    let n ← (Whole.ofDecimal negative whole).mapError (.ofWhole 10 (.ofChars whole))
    return (.int n, rest)
  else
    let some numeral :=
      Numeral.readList? ((if negative then ['-'] else []) ++ whole ++ fraction ++ power)
      | throw .malformed
    return (.float numeral.toBinary64, rest)

/-! ## Values -/

/-- The words for values, and what they stand for. -/
def words : List (List Char × Scalar) :=
  [("null".toList, .null), ("true".toList, .bool true), ("false".toList, .bool false),
   ("NaN".toList, .float .nan), ("Infinity".toList, .float (.infinite false)),
   ("-Infinity".toList, .float (.infinite true))]

/-- A word, and what follows. -/
def takeWord? (cs : List Char) : Option (Scalar × List Char) :=
  (words.find? fun (word, _) => word.isPrefixOf cs).map fun (word, v) => (v, cs.drop word.length)

/-- How deep lists and mappings may lie in each other. -/
def deepest : Nat := 985

mutual

/-- A value at the start of a text, and what follows. The first argument bounds the work, the second
one how deep lists and mappings still may lie in each other. -/
def takeValue : Nat → Nat → List Char → Except Trouble (Value × List Char)
  | 0, _, _ => .error .malformed
  | fuel + 1, depth, cs =>
    match skipSpace cs with
    | '"' :: rest => (takeText fuel rest).map fun (s, rest) => (.scalar s, rest)
    | '[' :: rest =>
      if depth = 0 then .error .tooDeep
      else match skipSpace rest with
        | ']' :: rest => .ok (.list [], rest)
        | rest => (takeItems fuel (depth - 1) rest).map fun (items, rest) => (.list items, rest)
    | '{' :: rest =>
      if depth = 0 then .error .tooDeep
      else match skipSpace rest with
        | '}' :: rest => .ok (.mapping [], rest)
        | rest => (takeMembers fuel (depth - 1) [] rest).map fun (members, rest) =>
            (.mapping members, rest)
    | cs =>
      match takeWord? cs with
      | some (s, rest) => .ok (.scalar s, rest)
      | none => (takeNumber cs).map fun (s, rest) => (.scalar s, rest)

/-- The members of a list up to its closing bracket, and what follows. -/
def takeItems : Nat → Nat → List Char → Except Trouble (List Value × List Char)
  | 0, _, _ => .error .malformed
  | fuel + 1, depth, cs => do
    let (v, rest) ← takeValue fuel depth cs
    match skipSpace rest with
    | ',' :: rest =>
      let (vs, rest) ← takeItems fuel depth rest
      return (v :: vs, rest)
    | ']' :: rest => return ([v], rest)
    | _ => throw .malformed

/-- The members of a mapping up to its closing brace, after those read so far, and what follows. -/
def takeMembers : Nat → Nat → List (Scalar × Value) → List Char →
    Except Trouble (List (Scalar × Value) × List Char)
  | 0, _, _, _ => .error .malformed
  | fuel + 1, depth, done, cs =>
    match skipSpace cs with
    | '"' :: rest => do
      let (key, rest) ← takeText fuel rest
      match skipSpace rest with
      | ':' :: rest =>
        let (v, rest) ← takeValue fuel depth rest
        let done := Value.setEntry key v done
        match skipSpace rest with
        | ',' :: rest => takeMembers fuel depth done rest
        | '}' :: rest => return (done, rest)
        | _ => throw .malformed
      | _ => throw .malformed
    | _ => .error .malformed

end

/-- The value that a text spells. -/
def read (text : String) : Except Trouble Value := do
  let cs := text.toList
  let (v, rest) ← takeValue (2 * cs.length + 2) deepest cs
  if (skipSpace rest).isEmpty then return v else throw .malformed

end SlashLine.Config.Json
