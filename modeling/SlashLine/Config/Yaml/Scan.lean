import SlashLine.Config.Yaml.Token

/-!
# Reading the signs of a YAML text

Mappings and sequences are marked by brackets or by indentation. Whether a text is a key shows only
at the colon after it; until then its place is remembered, and the signs from there on are not sure.

* `tokens`: the signs of a text, up to the first trouble with it.
-/

namespace SlashLine.Config.Yaml

/-- A place where a key may have started: before which sign, whether it has to be a key, and where
in the text. -/
structure KeyPlace where
  position : Nat
  required : Bool
  index : Nat
  line : Nat
  column : Nat
  deriving Repr

/-- How far a text is read. -/
structure Scan where
  cursor : Cursor
  /-- The signs so far, the newest first, and how many there are. -/
  tokens : List Token := []
  count : Nat := 0
  /-- How many brackets are open. -/
  flow : Nat := 0
  /-- The column of the innermost block, and those of the blocks around it. -/
  indent : Int := -1
  outer : List Int := []
  /-- A key may start here. -/
  mayStartKey : Bool := true
  /-- The places of possible keys, by the number of brackets open there. -/
  places : List (Nat × KeyPlace) := []

namespace Scan

/-- No bracket is open. -/
def inBlock (s : Scan) : Bool := s.flow == 0

/-- Adds a sign. -/
def emit (s : Scan) (t : Token) : Scan :=
  { s with tokens := t :: s.tokens, count := s.count + 1 }

/-- Past so many characters. -/
def skip (s : Scan) (n : Nat) : Scan := { s with cursor := s.cursor.skip n }

/-- Past spaces, comments and line breaks. After a line break a key may start. -/
def skipGaps : Nat → Scan → Scan
  | 0, s => s
  | fuel + 1, s =>
    let c := s.cursor.skipWhile (· == ' ')
    let c := if c.head? == some '#' then c.skipWhile (!isBreak ·) else c
    match c.takeBreak? with
    | none => { s with cursor := c }
    | some (_, c) =>
      skipGaps fuel { s with cursor := c, mayStartKey := s.mayStartKey || s.inBlock }

/-! ### Possible keys -/

/-- A place is too far back for a key: on another line, or more than 1024 characters before. -/
def isStale (s : Scan) (p : KeyPlace) : Bool :=
  p.line != s.cursor.line || 1024 < s.cursor.index - p.index

/-- Forgets the places of keys that are too far back. -/
def dropStale (s : Scan) : Option Scan :=
  if s.places.any fun (_, p) => s.isStale p && p.required then none
  else some { s with places := s.places.filter fun (_, p) => !s.isStale p }

/-- Forgets the possible key among the open brackets. -/
def dropPlace (s : Scan) : Option Scan :=
  if s.places.any fun (level, p) => level == s.flow && p.required then none
  else some { s with places := s.places.filter fun (level, _) => level != s.flow }

/-- Remembers that a key may start here. -/
def savePlace (s : Scan) : Option Scan :=
  if s.mayStartKey then do
    let s ← s.dropPlace
    let place : KeyPlace :=
      { position := s.count, required := s.inBlock && s.indent == s.cursor.column
        index := s.cursor.index, line := s.cursor.line, column := s.cursor.column }
    some { s with places := (s.flow, place) :: s.places }
  else some s

/-! ### Indentation -/

/-- Ends the blocks that are indented further than a column. -/
def unwindTo (column : Int) : Nat → Scan → Scan
  | 0, s => s
  | fuel + 1, s =>
    if column < s.indent then
      let (indent, outer) := match s.outer with
        | [] => (-1, [])
        | i :: rest => (i, rest)
      unwindTo column fuel { s.emit .blockEnd with indent, outer }
    else s

/-- Ends the blocks that are indented further than a column, unless a bracket is open. -/
def unwind (s : Scan) (column : Int) : Scan :=
  if s.inBlock then s.unwindTo column (s.outer.length + 1) else s

/-- Starts a block if a column lies further right than the innermost one. -/
def indentTo (s : Scan) (column : Int) : Bool × Scan :=
  if s.indent < column then (true, { s with indent := column, outer := s.indent :: s.outer })
  else (false, s)

/-! ### Signs -/

/-- A marker or a directive: ends all blocks. -/
def atTop (s : Scan) : Option Scan := do
  let s ← (s.unwind (-1)).dropPlace
  some { s with mayStartKey := false }

/-- A bracket opens. -/
def openFlow (s : Scan) (t : Token) : Option Scan := do
  let s ← s.savePlace
  some { (s.emit t).skip 1 with flow := s.flow + 1, mayStartKey := true }

/-- A bracket closes. -/
def closeFlow (s : Scan) (t : Token) : Option Scan := do
  let s ← s.dropPlace
  some { (s.emit t).skip 1 with flow := s.flow - 1, mayStartKey := false }

/-- A comma between brackets. -/
def flowEntry (s : Scan) : Option Scan := do
  let s ← { s with mayStartKey := true }.dropPlace
  some ((s.emit .flowEntry).skip 1)

/-- A dash before a member of a sequence. -/
def blockEntry (s : Scan) : Option Scan := do
  if s.inBlock && !s.mayStartKey then none
  else
    let s := if s.inBlock then
        match s.indentTo s.cursor.column with
        | (true, s) => s.emit .sequenceStart
        | (false, s) => s
      else s
    let s ← { s with mayStartKey := true }.dropPlace
    some ((s.emit .blockEntry).skip 1)

/-- A question mark before a key. -/
def explicitKey (s : Scan) : Option Scan := do
  if s.inBlock && !s.mayStartKey then none
  else
    let s := if s.inBlock then
        match s.indentTo s.cursor.column with
        | (true, s) => s.emit .mappingStart
        | (false, s) => s
      else s
    let s ← { s with mayStartKey := s.inBlock }.dropPlace
    some ((s.emit .key).skip 1)

/-- The signs with others put in at a place. -/
def insertAt (s : Scan) (position : Nat) (ts : List Token) : Scan :=
  let later := s.count - position
  { s with
    tokens := s.tokens.take later ++ ts.reverse ++ s.tokens.drop later
    count := s.count + ts.length }

/-- A colon: what was remembered before it is a key. -/
def colon (s : Scan) : Option Scan :=
  match s.places.find? fun (level, _) => level == s.flow with
  | some (_, place) =>
    let s := { s with places := s.places.filter fun (level, _) => level != s.flow }
    let (starts, s) := if s.inBlock then s.indentTo place.column else (false, s)
    let s := s.insertAt place.position (if starts then [.mappingStart, .key] else [.key])
    some ({ s with mayStartKey := false }.emit .value |>.skip 1)
  | none =>
    if s.inBlock && !s.mayStartKey then none
    else do
      let s := if s.inBlock then
          match s.indentTo s.cursor.column with
          | (true, s) => s.emit .mappingStart
          | (false, s) => s
        else s
      let s ← { s with mayStartKey := s.inBlock }.dropPlace
      some ((s.emit .value).skip 1)

/-- A name of a node, or a reference to one. -/
def reference (s : Scan) (make : String → Token) : Option Scan := do
  let s ← s.savePlace
  let (name, c) ← takeName? s.cursor.next
  some { s.emit (make name) with cursor := c, mayStartKey := false }

/-- A tag. -/
def tagged (s : Scan) : Option Scan := do
  let s ← s.savePlace
  let (tag, c) ← takeTag? s.cursor
  if startsSpace c.rest then some { s.emit (.tag tag) with cursor := c, mayStartKey := false }
  else none

/-- A block of lines. -/
def block (s : Scan) (folded : Bool) : Option Scan := do
  let s ← { s with mayStartKey := true }.dropPlace
  let (text, c) ← blockText folded s.indent s.cursor.next
  some { s.emit (.text false (.ofChars text)) with cursor := c }

/-- A plain text. -/
def plain (s : Scan) : Option Scan := do
  let s ← s.savePlace
  let (text, c, broken) :=
    plainText (!s.inBlock) (s.indent + 1) s.cursor.fuel [] false s.cursor
  some { s.emit (.text true (.ofChars text)) with cursor := c, mayStartKey := broken }

/-- A text between quotes. -/
def quoted (s : Scan) (double : Bool) : Except Trouble Scan := do
  let s ← orMalformed s.savePlace
  let (letters, c) ← quotedText double s.cursor.fuel s.cursor.next
  return { s.emit (.text false letters) with cursor := c, mayStartKey := false }

/-- A directive. -/
def directive (s : Scan) : Except Trouble Scan := do
  let s ← orMalformed s.atTop
  let (token, c) ← takeDirective s.cursor.next
  return { s.emit token with cursor := c }

/-- A plain text may start with these characters. -/
def startsPlain (inFlow : Bool) (c : Char) (rest : List Char) : Bool :=
  let signs := "-?:,[]\x7b\x7d#&*!|>'\"%@".toList
  if isGap c || c.toNat == 0x60 then false
  else if !signs.contains c then true
  else !startsGap rest && (c == '-' || (!inFlow && (c == '?' || c == ':')))

/-- The next sign, if it is neither a directive nor a text between quotes. -/
def sign? (s : Scan) (c : Char) (rest : List Char) : Option Scan :=
  if s.cursor.column == 0 && startsMarker (c :: rest) then do
    let s ← s.atTop
    some ((s.emit (if c == '-' then .documentStart else .documentEnd)).skip 3)
  else if c == '[' then s.openFlow .flowSequenceStart
  else if c == '{' then s.openFlow .flowMappingStart
  else if c == ']' then s.closeFlow .flowSequenceEnd
  else if c == '}' then s.closeFlow .flowMappingEnd
  else if c == ',' then s.flowEntry
  else if c == '-' && startsGap rest then s.blockEntry
  else if c == '?' && (!s.inBlock || startsGap rest) then s.explicitKey
  else if c == ':' && (!s.inBlock || startsGap rest) then s.colon
  else if c == '*' then s.reference .alias
  else if c == '&' then s.reference .anchor
  else if c == '!' then s.tagged
  else if c == '|' && s.inBlock then s.block false
  else if c == '>' && s.inBlock then s.block true
  else if startsPlain (!s.inBlock) c rest then s.plain
  else none

/-- The next sign. The character after it has been looked at. -/
def sign (s : Scan) (c : Char) (rest : List Char) : Except Trouble Scan := do
  let next ←
    if c == '%' && s.cursor.column == 0 then s.directive
    else if c == '\'' then s.quoted false
    else if c == '"' then s.quoted true
    else orMalformed (s.sign? c rest)
  if next.cursor.isRefused then throw .malformed
  return next

/-! ### The whole text -/

/-- The signs before the first one that may still turn out to follow a key. -/
def settled (s : Scan) : List Token :=
  let waiting := (s.places.filter fun (_, p) => !s.isStale p).map fun (_, p) => p.position
  match waiting.min? with
  | some position => (s.tokens.drop (s.count - position)).reverse
  | none => s.tokens.reverse

/-- Up to the next sign. -/
def approach (s : Scan) : Except Trouble Scan := do
  let s ← orMalformed (s.skipGaps s.cursor.fuel).dropStale
  if s.cursor.isRefused then throw .malformed
  return s.unwind s.cursor.column

/-- All signs of the text, those so far included. -/
def run : Nat → Scan → List Token
  | 0, s => s.settled ++ [.broken .malformed]
  | fuel + 1, s =>
    match s.approach with
    | .error t => s.settled ++ [.broken t]
    | .ok here =>
      match here.cursor.rest with
      | [] =>
        match (here.unwind (-1)).dropPlace with
        | some ended => (ended.emit .finish).tokens.reverse
        | none => s.settled ++ [.broken .malformed]
      | c :: rest =>
        match here.sign c rest with
        | .ok next => run fuel next
        | .error t => s.settled ++ [.broken t]

end Scan

/-- The signs of a text; the last one is its end, or the trouble with it. -/
def tokens (text : String) : List Token :=
  let start := Cursor.ofText text.toList
  let start := if start.head? == some '\ufeff' then start.next else start
  Scan.run (start.size + 2) { cursor := start }

end SlashLine.Config.Yaml
