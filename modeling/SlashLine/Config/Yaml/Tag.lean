import SlashLine.Config.Yaml.Date

/-!
# Tags

A tag says what a node of a YAML text is. The language has tags of its own; of a text without one
the form decides, if it is plain: it may be a truth value, a number, nothing, or a date. Numbers are
written to the bases 2, 8, 10 and 16, with underscores, or in groups of sixty.

* `Tag.ofPlain`: the tag of a plain text.
-/

namespace SlashLine.Config.Yaml

/-- What a node is. -/
inductive Tag where
  | null
  | bool
  | int
  | float
  | bytes
  | moment
  | text
  | list
  | mapping
  | set
  /-- A list of mappings with one entry each. -/
  | ordered
  /-- The same, in which keys may be repeated. -/
  | pairs
  /-- As a key: the mappings to be merged into this one. -/
  | merge
  /-- As a key: the equals sign, under which a mapping has its value as a plain one. -/
  | equals
  /-- A tag that stands for nothing here. -/
  | foreign
  deriving DecidableEq, Repr

namespace Tag

instance : Inhabited Tag := ⟨foreign⟩

/-- What the tags of the language itself start with. -/
def core : String := "tag:yaml.org,2002:"

/-- The tags of the language itself, without what they start with. -/
def names : List (String × Tag) :=
  [("null", null), ("bool", bool), ("int", int), ("float", float), ("binary", bytes),
   ("timestamp", moment), ("str", text), ("seq", list), ("map", mapping), ("set", set),
   ("omap", ordered), ("pairs", pairs), ("merge", merge), ("value", equals)]

/-- The tag with a full name. -/
def ofName (name : String) : Tag :=
  ((names.find? fun (short, _) => name == core ++ short).map Prod.snd).getD foreign

/-! ## Forms of plain texts -/

/-- The words for truth values. -/
def truthWords : List String :=
  ["yes", "Yes", "YES", "no", "No", "NO", "true", "True", "TRUE", "false", "False", "FALSE",
   "on", "On", "ON", "off", "Off", "OFF"]

/-- The words for nothing. -/
def nullWords : List String := ["~", "null", "Null", "NULL", ""]

/-- A text without its sign. -/
def unsigned : List Char → List Char
  | '-' :: rest => rest
  | '+' :: rest => rest
  | cs => cs

/-- Digits with underscores, of which the first character is none. -/
def isDigits : List Char → Bool
  | [] => false
  | c :: rest => c.isDigit && rest.all fun d => d.isDigit || d == '_'

/-- Digits of a base and underscores, at least one of them. -/
def isDigitsTo (base : Nat) (cs : List Char) : Bool :=
  !cs.isEmpty && cs.all fun c => Text.isDigitOf base c || c == '_'

/-- A group of a number to the base sixty: one digit, or two of which the first is below six. -/
def isSixty : List Char → Bool
  | [a] => a.isDigit
  | [a, b] => a.isDigit && a.toNat < 0x36 && b.isDigit
  | _ => false

/-- The parts of a list between marks. -/
def partsBetween {α : Type} [BEq α] (mark : α) (xs : List α) : List (List α) :=
  xs.foldr (fun x parts => match parts with
    | part :: more => if x == mark then [] :: part :: more else (x :: part) :: more
    | [] => [[x]]) [[]]

/-- Digits and at least one group to the base sixty after a colon. -/
def isGrouped (cs : List Char) : Bool :=
  match partsBetween ':' cs with
  | digits :: group :: groups => isDigits digits && (group :: groups).all isSixty
  | _ => false

/-- A whole number. -/
def isWhole (cs : List Char) : Bool :=
  match unsigned cs with
  | '0' :: 'b' :: ds => isDigitsTo 2 ds
  | '0' :: 'x' :: ds => isDigitsTo 16 ds
  | ['0'] => true
  | '0' :: ds => isDigitsTo 8 ds
  | cs => isDigits cs || isGrouped cs

/-- A power of ten with its sign, or nothing. -/
def isPower : List Char → Bool
  | [] => true
  | e :: sign :: ds =>
    (e == 'e' || e == 'E') && (sign == '+' || sign == '-') && !ds.isEmpty && ds.all Char.isDigit
  | _ => false

/-- The words for infinity. -/
def infinityWords : List String := [".inf", ".Inf", ".INF"]

/-- The words for no number. -/
def nanWords : List String := [".nan", ".NaN", ".NAN"]

/-- A floating-point number. There has to be a point; a sign cannot stand right before it. -/
def isDecimal (cs : List Char) : Bool :=
  let bare := unsigned cs
  if infinityWords.contains (String.ofList bare) then true
  else if nanWords.contains (String.ofList cs) then true
  else
    let isPart (c : Char) := c.isDigit || c == '_'
    let whole := bare.takeWhile (· != '.')
    match bare.drop whole.length with
    | '.' :: rest =>
      let fraction := rest.takeWhile isPart
      let power := rest.dropWhile isPart
      if whole.isEmpty then bare.length == cs.length && isDigits fraction && isPower power
      else (isDigits whole && isPower power) || (isGrouped whole && power.isEmpty)
    | _ => false

/-- A date; without a time of day, month and day have two digits. -/
def isDate (cs : List Char) : Bool :=
  match writtenDate? cs with
  | some d => d.time.isSome || cs.length == 10
  | none => false

/-! ### All together -/

/-- The tag of a plain text. A line break at its end does not count. -/
def ofPlain (cs : List Char) : Tag :=
  if cs == ['\n'] then text
  else
    let cs := dropLastBreak cs
    let s := String.ofList cs
    if truthWords.contains s then bool
    else if isDecimal cs then float
    else if isWhole cs then int
    else if s == "<<" then merge
    else if nullWords.contains s then null
    else if isDate cs then moment
    else if s == "=" then equals
    else if ["!", "&", "*"].contains s then foreign
    else text

end Tag

end SlashLine.Config.Yaml
