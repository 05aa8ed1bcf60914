import SlashLine.Config.Yaml.Text
import SlashLine.Text.Utf8

/-!
# Names in YAML

The names of nodes, and tags, which say what nodes are. A tag is written in full or starts with a
handle, a short form for the start of a tag.

* `takeName?`, `takeTag?`: the name of a node and a tag, and what follows.
-/

namespace SlashLine.Config.Yaml

/-- The characters of names. -/
def isNameChar (c : Char) : Bool := c.isAlphanum || c == '-' || c == '_'

/-- The name of a node, after its sign. -/
def takeName? (c : Cursor) : Option (String × Cursor) :=
  let (name, c) := c.takeWhile isNameChar
  let ends := startsGap c.rest || c.rest.head?.any fun ch => "?:,]\x7d%@".toList.contains ch ||
    ch.toNat == 0x60
  if name.isEmpty || !ends then none else some (String.ofList name, c)

/-! ## Tags -/

/-- A tag as it is written: a handle, unless it is written in full, and what follows the handle. -/
structure WrittenTag where
  handle : Option String
  suffix : String
  deriving DecidableEq, Repr

/-- The characters of a tag, escapes aside. -/
def isTagChar (c : Char) : Bool :=
  c.isAlphanum || "-;/?:@&=+$,_.!~*'()[]".toList.contains c

/-- The bytes that the escapes at a place stand for, and what follows. -/
def takeTagBytes? : Nat → Cursor → Option (List UInt8 × Cursor)
  | 0, c => some ([], c)
  | fuel + 1, c =>
    match c.rest with
    | '%' :: a :: b :: _ =>
      if [a, b].all (Text.isDigitOf 16) then
        (takeTagBytes? fuel (c.skip 3)).map fun (bytes, c) =>
          (UInt8.ofNat (Text.numberOf 16 [a, b]) :: bytes, c)
      else none
    | '%' :: _ => none
    | _ => some ([], c)

/-- The characters of a tag from a place on, and what follows. -/
def takeTagText? : Nat → Cursor → Option (List Char × Cursor)
  | 0, _ => none
  | fuel + 1, c =>
    let (cs, c) := c.takeWhile isTagChar
    if c.head? == some '%' then do
      let (bytes, c) ← takeTagBytes? c.fuel c
      let escaped ← Text.ofUtf8? bytes
      let (more, c) ← takeTagText? fuel c
      some (cs ++ escaped.toList ++ more, c)
    else some (cs, c)

/-- A tag or a part of one, which has to be there, and what follows. -/
def takeTagPart? (c : Cursor) : Option (String × Cursor) :=
  match takeTagText? c.fuel c with
  | some ([], _) => none
  | some (cs, c) => some (String.ofList cs, c)
  | none => none

/-- A handle: an exclamation mark alone, or a name between two of them. -/
def takeHandle? (c : Cursor) : Option (String × Cursor) :=
  match c.rest with
  | '!' :: ' ' :: _ => some ("!", c.next)
  | '!' :: _ =>
    let (name, c) := c.next.takeWhile isNameChar
    if c.head? == some '!' then some (String.ofList ('!' :: name ++ ['!']), c.next) else none
  | _ => none

/-- The tag that is next. -/
def takeTag? (c : Cursor) : Option (WrittenTag × Cursor) :=
  match c.rest with
  | '!' :: '<' :: _ => do
    let (suffix, c) ← takeTagPart? (c.skip 2)
    if c.head? == some '>' then some (⟨none, suffix⟩, c.next) else none
  | '!' :: rest =>
    if startsGap rest then some (⟨none, "!"⟩, c.next)
    else if (rest.takeWhile fun ch => ch != ' ' && !isBreak ch).contains '!' then do
      let (handle, c) ← takeHandle? c
      let (suffix, c) ← takeTagPart? c
      some (⟨some handle, suffix⟩, c)
    else (takeTagPart? c.next).map fun (suffix, c) => (⟨some "!", suffix⟩, c)
  | _ => none

end SlashLine.Config.Yaml
