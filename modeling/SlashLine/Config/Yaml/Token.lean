import SlashLine.Config.Yaml.Name

/-!
# The signs of a YAML text

What a YAML text consists of: the starts and ends of mappings and sequences, their keys and values,
the texts in them, names, tags, and the directives before a document.

* `takeDirective`: a directive.
-/

namespace SlashLine.Config.Yaml

/-- A sign. -/
inductive Token where
  /-- The version of the language, by its first number. -/
  | version (major : Int)
  /-- A handle of tags and what it is short for. -/
  | handle (name full : String)
  /-- Any other directive. -/
  | directive
  | documentStart
  | documentEnd
  | sequenceStart
  | mappingStart
  | blockEnd
  | flowSequenceStart
  | flowSequenceEnd
  | flowMappingStart
  | flowMappingEnd
  | flowEntry
  | blockEntry
  | key
  | value
  | alias (name : String)
  | anchor (name : String)
  | tag (tag : WrittenTag)
  | text (plain : Bool) (letters : Text.Letters)
  /-- The end of the text. -/
  | finish
  /-- There are no more signs, for the text has a trouble here. -/
  | broken (trouble : Trouble)
  deriving DecidableEq, Repr

namespace Token

/-- The sign is a directive. -/
def isDirective : Token → Bool
  | version _ => true
  | handle _ _ => true
  | directive => true
  | _ => false

end Token

/-! ## Directives -/

/-- Past all spaces. -/
def skipSpaces (c : Cursor) : Cursor := c.skipWhile (· == ' ')

/-- A number of a version, and what follows. -/
def takeVersionPart (c : Cursor) : Except Trouble (Int × Cursor) := do
  let (digits, c) := c.takeWhile Char.isDigit
  if digits.isEmpty || c.isRefused then throw .malformed
  return (← (Whole.ofDecimal false digits).mapError (.ofWhole 10 (.ofChars digits)), c)

/-- A version: two numbers with a point between them. -/
def takeVersion (c : Cursor) : Except Trouble (Token × Cursor) := do
  let (major, c) ← takeVersionPart (skipSpaces c)
  if c.head? != some '.' then throw .malformed
  let (_, c) ← takeVersionPart c.next
  if startsSpace c.rest then return (.version major, c) else throw .malformed

/-- A handle and what it is short for. -/
def takeHandleMeaning? (c : Cursor) : Option (Token × Cursor) := do
  let (name, c) ← takeHandle? (skipSpaces c)
  if c.head? != some ' ' then none
  else
    let (full, c) ← takeTagPart? (skipSpaces c)
    if startsSpace c.rest then some (.handle name full, c) else none

/-- The directive after a percent sign: it takes up a line. -/
def takeDirective (c : Cursor) : Except Trouble (Token × Cursor) := do
  let (name, c) := c.takeWhile isNameChar
  if name.isEmpty || !startsSpace c.rest then throw .malformed
  let (token, c) ←
    if name == "YAML".toList then takeVersion c
    else if name == "TAG".toList then orMalformed (takeHandleMeaning? c)
    else pure (.directive, c.skipWhile (!isBreak ·))
  return (token, ← orMalformed (lineEnd? c))

end SlashLine.Config.Yaml
