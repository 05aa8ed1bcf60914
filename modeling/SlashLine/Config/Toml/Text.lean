import SlashLine.Text.Radix

/-!
# Texts and names in TOML

Texts stand between double quotes, with escapes, or between single quotes, without. Three quotes
let a text run over lines. A name is bare or a text on one line; names with points between them
lead from table to table.

* `takeText?`: a text, and what follows it.
* `takePath?`: names with points between them, and what follows.
-/

namespace SlashLine.Config.Toml

/-! ## Gaps -/

/-- A space or a tab. -/
def isSpace (c : Char) : Bool := c == ' ' || c == '\t'

/-- A text without the spaces it starts with. -/
def skipSpace (cs : List Char) : List Char := cs.dropWhile isSpace

/-- A character that no text and no comment may hold, where line breaks are not allowed either. -/
def isControl (c : Char) : Bool := (c.toNat < 0x20 && c != '\t') || c.toNat == 0x7f

/-- What follows a comment, if there is one: its end is the end of the line. -/
def skipComment? : List Char → Option (List Char)
  | '#' :: rest =>
    if (rest.takeWhile (· != '\n')).any isControl then none
    else some (rest.dropWhile (· != '\n'))
  | cs => some cs

/-- What follows spaces, line breaks and comments. The first argument bounds the number of
lines. -/
def skipLines? : Nat → List Char → Option (List Char)
  | 0, _ => none
  | fuel + 1, cs =>
    match cs.dropWhile fun c => isSpace c || c == '\n' with
    | '#' :: rest => (skipComment? ('#' :: rest)).bind (skipLines? fuel)
    | rest => some rest

/-! ## Texts -/

/-- The characters that a text may not hold, over lines or not. -/
def isForbidden (overLines : Bool) (c : Char) : Bool := isControl c && !(overLines && c == '\n')

/-- The number that digits to the base 16 spell, a given count of them. -/
def takeHex? : Nat → Nat → List Char → Option (Nat × List Char)
  | 0, n, cs => some (n, cs)
  | count + 1, n, c :: cs => (Text.hexValue? c).bind fun d => takeHex? count (16 * n + d) cs
  | _ + 1, _, [] => none

/-- The character with a number. -/
def charOf? (n : Nat) : Option Char := if n.isValidChar then some (Char.ofNat n) else none

/-- The character of an escape, after the backslash, and what follows. -/
def takeEscape? : List Char → Option (Char × List Char)
  | 'u' :: rest => do
    let (n, rest) ← takeHex? 4 0 rest
    return (← charOf? n, rest)
  | 'U' :: rest => do
    let (n, rest) ← takeHex? 8 0 rest
    return (← charOf? n, rest)
  | 'b' :: rest => some ('\x08', rest)
  | 't' :: rest => some ('\t', rest)
  | 'n' :: rest => some ('\n', rest)
  | 'f' :: rest => some ('\x0c', rest)
  | 'r' :: rest => some ('\r', rest)
  | '"' :: rest => some ('"', rest)
  | '\\' :: rest => some ('\\', rest)
  | _ => none

/-- After a backslash at the end of a line: what follows the spaces and line breaks there. None if
it does not end the line. -/
def joinLines? (cs : List Char) : Option (List Char) :=
  match cs with
  | [] => none
  | c :: _ =>
    if c != '\n' && !isSpace c then none
    else match skipSpace cs with
      | [] => some []
      | '\n' :: rest => some (rest.dropWhile fun c => isSpace c || c == '\n')
      | _ => none

/-- The end of a text over lines, after its three closing quotes: up to two more quotes belong to
the text. -/
def takeSpareQuotes (quote : Char) : List Char → List Char × List Char
  | a :: b :: rest =>
    if a != quote then ([], a :: b :: rest)
    else if b != quote then ([quote], b :: rest)
    else ([quote, quote], rest)
  | [a] => if a == quote then ([quote], []) else ([], [a])
  | [] => ([], [])

/-- The rest of a text between double quotes up to its end, and what follows. -/
def takeEscaped? (overLines : Bool) : Nat → List Char → Option (List Char × List Char)
  | 0, _ => none
  | _ + 1, [] => none
  | fuel + 1, '"' :: rest =>
    if !overLines then some ([], rest)
    else match rest with
      | '"' :: '"' :: rest => some (takeSpareQuotes '"' rest)
      | rest => (takeEscaped? overLines fuel rest).map fun (s, rest) => ('"' :: s, rest)
  | fuel + 1, '\\' :: rest =>
    match (if overLines then joinLines? rest else none) with
    | some rest => takeEscaped? overLines fuel rest
    | none => do
      let (c, rest) ← takeEscape? rest
      let (s, rest) ← takeEscaped? overLines fuel rest
      return (c :: s, rest)
  | fuel + 1, c :: rest =>
    if isForbidden overLines c then none
    else (takeEscaped? overLines fuel rest).map fun (s, rest) => (c :: s, rest)

/-- The rest of a text between single quotes up to its end, and what follows. -/
def takeVerbatim? (overLines : Bool) : List Char → Option (List Char × List Char)
  | [] => none
  | '\'' :: rest =>
    if !overLines then some ([], rest)
    else match rest with
      | '\'' :: '\'' :: rest => some (takeSpareQuotes '\'' rest)
      | rest => (takeVerbatim? overLines rest).map fun (s, rest) => ('\'' :: s, rest)
  | c :: rest =>
    if isForbidden overLines c then none
    else (takeVerbatim? overLines rest).map fun (s, rest) => (c :: s, rest)

/-- A text without the line break it starts with. -/
def dropBreak : List Char → List Char
  | '\n' :: rest => rest
  | cs => cs

/-- A text on one line, and what follows it. The first argument bounds the number of characters. -/
def takeLineText? (fuel : Nat) : List Char → Option (List Char × List Char)
  | '"' :: rest => takeEscaped? false fuel rest
  | '\'' :: rest => takeVerbatim? false rest
  | _ => none

/-- A text, and what follows it. The first argument bounds the number of characters. -/
def takeText? (fuel : Nat) (cs : List Char) : Option (List Char × List Char) :=
  match cs with
  | '"' :: '"' :: '"' :: rest => takeEscaped? true fuel (dropBreak rest)
  | '\'' :: '\'' :: '\'' :: rest => takeVerbatim? true (dropBreak rest)
  | cs => takeLineText? fuel cs

/-! ## Names -/

/-- The characters of bare names. -/
def isBare (c : Char) : Bool := c.isAlphanum || c == '-' || c == '_'

/-- A name may start with this character. -/
def startsName (c : Char) : Bool := isBare c || c == '"' || c == '\''

/-- A name, and what follows it. The first argument bounds the number of characters. -/
def takeName? (fuel : Nat) (cs : List Char) : Option (String × List Char) :=
  match cs.takeWhile isBare with
  | [] => (takeLineText? fuel cs).map fun (s, rest) => (String.ofList s, rest)
  | name => some (String.ofList name, cs.drop name.length)

/-- Names with points between them, and what follows. The first argument bounds the number of
characters. -/
def takePath? : Nat → List Char → Option (List String × List Char)
  | 0, _ => none
  | fuel + 1, cs => do
    let (name, rest) ← takeName? (fuel + 1) cs
    match skipSpace rest with
    | '.' :: rest =>
      let (names, rest) ← takePath? fuel (skipSpace rest)
      return (name :: names, rest)
    | rest => return ([name], rest)

end SlashLine.Config.Toml
