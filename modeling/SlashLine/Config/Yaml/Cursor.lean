/-!
# Places in a YAML text

What is left to read, and how far one has come: characters, lines, and columns. A text is taken in
portions, each when a character of it is needed, and a portion with a character that no text may
hold is refused. What stands before it has been read by then.

* `Cursor.ofText`: the start of a text, up to the portion that is refused.
-/

namespace SlashLine.Config.Yaml

/-- The characters that end a line. -/
def isBreak (c : Char) : Bool :=
  c == '\n' || c == '\r' || c == '\u0085' || c == '\u2028' || c == '\u2029'

/-- The characters that separate: spaces, tabs and line breaks. -/
def isGap (c : Char) : Bool := c == ' ' || c == '\t' || isBreak c

/-- A separator or the end of the text is next. -/
def startsGap : List Char → Bool
  | [] => true
  | c :: _ => isGap c

/-- A line break or the end of the text is next. -/
def startsBreak : List Char → Bool
  | [] => true
  | c :: _ => isBreak c

/-- A space, a line break or the end of the text is next. -/
def startsSpace : List Char → Bool
  | [] => true
  | c :: _ => c == ' ' || isBreak c

/-- A marker between documents is next. -/
def startsMarker : List Char → Bool
  | '-' :: '-' :: '-' :: rest => startsGap rest
  | '.' :: '.' :: '.' :: rest => startsGap rest
  | _ => false

/-- The characters that a text may hold. -/
def isAllowed (c : Char) : Bool :=
  let n := c.toNat
  n == 0x09 || n == 0x0a || n == 0x0d || (0x20 ≤ n && n ≤ 0x7e) || n == 0x85 ||
    (0xa0 ≤ n && n ≤ 0xd7ff) || (0xe000 ≤ n && n ≤ 0xfffd) || 0x10000 ≤ n

/-- How many characters there are in the first portion of a text. -/
def firstPortion : Nat := 8192

/-- How many characters there are in each further portion; the first one is a multiple of that. -/
def portion : Nat := 4096

/-- How many characters stand before the portion that a character is in. -/
def portionStart (index : Nat) : Nat := if index < firstPortion then 0 else index - index % portion

/-- What is left of a text, and where it starts. -/
structure Cursor where
  rest : List Char
  /-- How many characters there are in all. -/
  size : Nat
  /-- After the rest comes a portion that is refused. -/
  isCut : Bool
  index : Nat := 0
  line : Nat := 0
  column : Nat := 0
  deriving DecidableEq, Repr

namespace Cursor

/-- The start of a text. -/
def ofText (cs : List Char) : Cursor :=
  let allowed := (cs.takeWhile isAllowed).length
  let size := if allowed = cs.length then allowed else portionStart allowed
  { rest := cs.take size, size, isCut := size < cs.length }

/-- The next character. -/
def head? (c : Cursor) : Option Char := c.rest.head?

/-- The next character is in a portion that is refused. -/
def isRefused (c : Cursor) : Bool := c.isCut && c.rest.isEmpty

/-- Past one character. A byte order mark has no width. -/
def next (c : Cursor) : Cursor :=
  match c.rest with
  | [] => c
  | ch :: rest =>
    if isBreak ch && !(ch == '\r' && rest.head? == some '\n') then
      { c with rest, index := c.index + 1, line := c.line + 1, column := 0 }
    else
      { c with rest, index := c.index + 1
               column := if ch == '\ufeff' then c.column else c.column + 1 }

/-- Past so many characters. -/
def skip (c : Cursor) : Nat → Cursor
  | 0 => c
  | n + 1 => c.next.skip n

/-- Past all characters of a kind. -/
def skipWhile (c : Cursor) (p : Char → Bool) : Cursor := c.skip (c.rest.takeWhile p).length

/-- The characters of a kind, and what follows. -/
def takeWhile (c : Cursor) (p : Char → Bool) : List Char × Cursor :=
  (c.rest.takeWhile p, c.skipWhile p)

/-- The line break that is next, in its plain form, and what follows. -/
def takeBreak? (c : Cursor) : Option (Char × Cursor) :=
  match c.rest with
  | '\r' :: '\n' :: _ => some ('\n', c.skip 2)
  | ch :: _ =>
    if ch == '\u2028' || ch == '\u2029' then some (ch, c.next)
    else if isBreak ch then some ('\n', c.next)
    else none
  | [] => none

/-- A bound on the number of steps that each take a character: no more are left than the whole text
has. -/
def fuel (c : Cursor) : Nat := c.size + 1

end Cursor

end SlashLine.Config.Yaml
