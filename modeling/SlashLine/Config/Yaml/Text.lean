import SlashLine.Config.Trouble
import SlashLine.Config.Yaml.Cursor
import SlashLine.Text.Letters

/-!
# Texts in YAML

The three ways in which a text is written: plain, between quotes, and as a block of lines. Lines
are folded: a single line break is a space, and of several the first one is left out.
-/

namespace SlashLine.Config.Yaml

/-- A folded line break, and the line breaks after it. -/
def foldBreak (first : Char) (more : List Char) : List Char :=
  if first != '\n' then first :: more else if more.isEmpty then [' '] else more

/-! ## Plain texts -/

/-- The characters that end plain text inside brackets. -/
def isFlowSign (c : Char) : Bool := c == ',' || c == '[' || c == ']' || c == '{' || c == '}'

/-- The characters of a plain text up to the next gap or sign. -/
def plainRun (inFlow : Bool) : List Char → List Char
  | [] => []
  | c :: rest =>
    let endsHere :=
      isGap c ||
      (c == ':' && (startsGap rest || (inFlow && (rest.head?.any isFlowSign)))) ||
      (inFlow && (isFlowSign c || c == '?'))
    if endsHere then [] else c :: plainRun inFlow rest

/-- The line breaks after the first one, with the spaces between them passed over. Nothing if a
marker between documents follows one of them. -/
def moreBreaks : Nat → Cursor → Option (List Char) × Cursor
  | 0, c => (some [], c)
  | fuel + 1, c =>
    if c.head? == some ' ' then moreBreaks fuel c.next
    else match c.takeBreak? with
      | none => (some [], c)
      | some (b, c) =>
        if startsMarker c.rest then (none, c)
        else match moreBreaks fuel c with
          | (some bs, c) => (some (b :: bs), c)
          | (none, c) => (none, c)

/-- What lies between two parts of a plain text: its folded form, what follows, and whether a line
break is among it. -/
def plainGap (c : Cursor) : Option (List Char) × Cursor × Bool :=
  let (blanks, c) := c.takeWhile (· == ' ')
  match c.takeBreak? with
  | none => (some blanks, c, false)
  | some (b, c) =>
    if startsMarker c.rest then (none, c, true)
    else match moreBreaks c.fuel c with
      | (none, c) => (none, c, true)
      | (some bs, c) => (some (foldBreak b bs), c, true)

/-- A plain text, after the given gap: what follows, and whether the gap behind it has a line
break. -/
def plainText (inFlow : Bool) (indent : Int) : Nat → List Char → Bool → Cursor →
    List Char × Cursor × Bool
  | 0, _, broken, c => ([], c, broken)
  | fuel + 1, gap, broken, c =>
    let run := plainRun inFlow c.rest
    if c.head? == some '#' || run.isEmpty then ([], c, broken)
    else
      let (next, c, broken) := plainGap (c.skip run.length)
      match next with
      | none => (gap ++ run, c, broken)
      | some next =>
        if next.isEmpty || c.head? == some '#' || (!inFlow && c.column < indent) then
          (gap ++ run, c, broken)
        else
          let (more, c, broken) := plainText inFlow indent fuel next broken c
          (gap ++ run ++ more, c, broken)

/-! ## Quoted texts -/

/-- The line breaks in a quoted text, with the blanks between them passed over. -/
def quotedBreaks : Nat → Cursor → Option (List Char × Cursor)
  | 0, _ => none
  | fuel + 1, c =>
    if startsMarker c.rest then none
    else
      let c := c.skipWhile fun ch => ch == ' ' || ch == '\t'
      match c.takeBreak? with
      | none => some ([], c)
      | some (b, c) => (quotedBreaks fuel c).map fun (bs, c) => (b :: bs, c)

/-- The blanks and line breaks in a quoted text, folded. -/
def quotedGap (c : Cursor) : Option (List Char × Cursor) :=
  let (blanks, c) := c.takeWhile fun ch => ch == ' ' || ch == '\t'
  match c.rest, c.takeBreak? with
  | [], _ => none
  | _, none => some (blanks, c)
  | _, some (b, c) => (quotedBreaks c.fuel c).map fun (bs, c) => (foldBreak b bs, c)

/-- The character that an escape of one character stands for. -/
def namedEscape? : Char → Option Char
  | '0' => some '\x00'
  | 'a' => some '\x07'
  | 'b' => some '\x08'
  | 't' => some '\t'
  | '\t' => some '\t'
  | 'n' => some '\n'
  | 'v' => some '\x0b'
  | 'f' => some '\x0c'
  | 'r' => some '\r'
  | 'e' => some '\x1b'
  | ' ' => some ' '
  | '"' => some '"'
  | '\\' => some '\\'
  | '/' => some '/'
  | 'N' => some '\u0085'
  | '_' => some '\u00a0'
  | 'L' => some '\u2028'
  | 'P' => some '\u2029'
  | _ => none

/-- The number of digits of an escape by number. -/
def codeWidth? : Char → Option Nat
  | 'x' => some 2
  | 'u' => some 4
  | 'U' => some 8
  | _ => none

/-- The number that exactly so many digits to the base 16 spell. -/
def hexNumber? (width : Nat) (cs : List Char) : Option Nat :=
  let ds := cs.take width
  if ds.length = width && ds.all (Text.isDigitOf 16) then some (Text.numberOf 16 ds) else none

/-- The letter with a number that an escape gives. -/
def letterOf (n : Nat) : Except Trouble Text.Letter :=
  if n < 0x110000 then .ok (Text.Letter.ofCode n)
  else if n < 0x80000000 then .error .noCharacter
  else .error .hugeCharacter

/-- What an escape stands for, after its backslash, and what follows. An escaped line break stands
for the line breaks after it. -/
def takeEscape (c : Cursor) : Except Trouble (Text.Letters × Cursor) := do
  match c.rest with
  | [] => throw .malformed
  | e :: rest =>
    match namedEscape? e, codeWidth? e, c.takeBreak? with
    | some ch, _, _ => return ([.char ch], c.next)
    | none, some width, _ =>
      let letter ← letterOf (← orMalformed (hexNumber? width rest))
      return ([letter], c.skip (width + 1))
    | none, none, some (_, c) =>
      let (breaks, c) ← orMalformed (quotedBreaks c.fuel c)
      return (.ofChars breaks, c)
    | none, none, none => throw .malformed

/-- The rest of a quoted text up to its closing quote, and what follows. -/
def quotedText (double : Bool) : Nat → Cursor → Except Trouble (Text.Letters × Cursor)
  | 0, _ => .error .malformed
  | fuel + 1, c =>
    match c.rest with
    | [] => .error .malformed
    | ch :: rest =>
      if double && ch == '"' then .ok ([], c.next)
      else if !double && ch == '\'' then
        if rest.head? == some '\'' then
          (quotedText double fuel (c.skip 2)).map fun (s, c) => (.char ch :: s, c)
        else .ok ([], c.next)
      else if double && ch == '\\' then do
        let (s, c) ← takeEscape c.next
        let (more, c) ← quotedText double fuel c
        return (s ++ more, c)
      else if isGap ch then do
        let (s, c) ← orMalformed (quotedGap c)
        let (more, c) ← quotedText double fuel c
        return (.ofChars s ++ more, c)
      else (quotedText double fuel c.next).map fun (s, c) => (.char ch :: s, c)

/-! ## Blocks of lines -/

/-- What becomes of the line breaks at the end of a block. -/
inductive Chomping where
  | strip
  | clip
  | keep
  deriving DecidableEq, Repr

/-- The signs after the start of a block: what becomes of its end, and its indentation beyond that
of the text around it. -/
def blockSigns (c : Cursor) : Option (Chomping × Option Nat × Cursor) :=
  let sign? (ch : Char) : Option Chomping :=
    if ch == '+' then some .keep else if ch == '-' then some .strip else none
  let digit? (ch : Char) : Option Nat :=
    if ch.isDigit && ch != '0' then some (ch.toNat - 0x30) else none
  let ended (chomping : Chomping) (indent : Option Nat) (c : Cursor) :=
    if c.rest.isEmpty || c.head? == some ' ' || startsBreak c.rest then some (chomping, indent, c)
    else none
  match c.rest with
  | a :: rest =>
    match sign? a, digit? a with
    | some s, _ =>
      match rest.head?.bind digit? with
      | some d => ended s (some d) (c.skip 2)
      | none => ended s none c.next
    | none, some d =>
      match rest.head?.bind sign? with
      | some s => ended s (some d) (c.skip 2)
      | none => ended .clip (some d) c.next
    | none, none => ended .clip none c
  | [] => ended .clip none c

/-- Past the rest of a line that only blanks and a comment may take up. -/
def lineEnd? (c : Cursor) : Option Cursor :=
  let c := c.skipWhile (· == ' ')
  let c := if c.head? == some '#' then c.skipWhile (!isBreak ·) else c
  if c.rest.isEmpty then some c else (c.takeBreak?).map Prod.snd

/-- The line breaks before the first line of a block, and the widest indentation among them. -/
def blockIndentation : Nat → Nat → Cursor → List Char × Nat × Cursor
  | 0, widest, c => ([], widest, c)
  | fuel + 1, widest, c =>
    if c.head? == some ' ' then blockIndentation fuel (max widest c.next.column) c.next
    else match c.takeBreak? with
      | none => ([], widest, c)
      | some (b, c) =>
        let (bs, widest, c) := blockIndentation fuel widest c
        (b :: bs, widest, c)

/-- Past the indentation of a line. -/
def skipIndent (indent : Int) (c : Cursor) : Cursor :=
  let spaces := (c.rest.takeWhile (· == ' ')).length
  c.skip (min spaces (indent - c.column).toNat)

/-- The line breaks before the next line of a block. -/
def blockBreaks (indent : Int) : Nat → Cursor → List Char × Cursor
  | 0, c => ([], c)
  | fuel + 1, c =>
    let c := skipIndent indent c
    match c.takeBreak? with
    | none => ([], c)
    | some (b, c) =>
      let (bs, c) := blockBreaks indent fuel c
      (b :: bs, c)

/-- The lines of a block after the given line breaks: their text, the last line break, the line
breaks after it, and what follows. -/
def blockLines (folded : Bool) (indent : Int) : Nat → List Char → Cursor →
    List Char × List Char × List Char × Cursor
  | 0, breaks, c => ([], [], breaks, c)
  | fuel + 1, breaks, c =>
    if (c.column : Int) = indent && !c.rest.isEmpty then
      let isBlank (ch : Option Char) := ch == some ' ' || ch == some '\t'
      let textFirst := !isBlank c.head?
      let (line, c) := c.takeWhile (!isBreak ·)
      let (ending, c) := match c.takeBreak? with
        | some (b, c) => ([b], c)
        | none => ([], c)
      let (more, c) := blockBreaks indent c.fuel c
      if (c.column : Int) = indent && !c.rest.isEmpty then
        let joint :=
          if folded && ending == ['\n'] && textFirst && !isBlank c.head? then
            if more.isEmpty then [' '] else []
          else ending
        let (text, last, after, c) := blockLines folded indent fuel more c
        (breaks ++ line ++ joint ++ text, last, after, c)
      else (breaks ++ line, ending, more, c)
    else ([], [], breaks, c)

/-- A block of lines, after the sign that starts it. -/
def blockText (folded : Bool) (outer : Int) (c : Cursor) : Option (List Char × Cursor) := do
  let (chomping, extra, c) ← blockSigns c
  let c ← lineEnd? c
  let least := max (outer + 1) 1
  let (breaks, indent, c) := match extra with
    | none =>
      let (breaks, widest, c) := blockIndentation c.fuel 0 c
      (breaks, max least widest, c)
    | some n =>
      let indent := least + n - 1
      let (breaks, c) := blockBreaks indent c.fuel c
      (breaks, indent, c)
  let (text, last, after, c) := blockLines folded indent c.fuel breaks c
  match chomping with
  | .strip => some (text, c)
  | .clip => some (text ++ last, c)
  | .keep => some (text ++ last ++ after, c)

end SlashLine.Config.Yaml
