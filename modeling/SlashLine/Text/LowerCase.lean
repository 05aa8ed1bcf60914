import SlashLine.Text.Word
import SlashLine.Text.LowerCase.Table

/-!
# Lower case

The full lower-case form of a text: each character by the Unicode tables, the dotted capital I as
two characters, and a capital sigma as the final form at the end of a word.

* `lowerChar_ascii`: on ASCII characters the form is that of core.
-/

namespace SlashLine.Text

/-- A letter with case, other than those that are passed over. -/
def isCased (c : Char) : Bool :=
  if c.toNat < 0x80 then c.isAlpha else inRanges casedRanges c.toNat

/-- Marks and joiners, which stand inside a word without ending it. -/
def isCaseIgnorable (c : Char) : Bool :=
  if c.toNat < 0x80 then c == '\'' || c == '.' || c == ':' || c == '^' || c.toNat == 0x60
  else inRanges caseIgnorableRanges c.toNat

/-- The shift of a code point to its lower-case form, in the runs of a table. -/
def lowerShift? (runs : List (Nat × Nat × Nat × Int)) (n : Nat) : Option Int :=
  (runs.find? fun (first, last, step, _) =>
    first ≤ n && n ≤ last && (n - first) % step == 0).map fun (_, _, _, shift) => shift

/-- The lower-case form of one character, wherever it stands. -/
def lowerChar (c : Char) : List Char :=
  if c.toNat < 0x80 then [c.toLower]
  else if c == '\u0130' then ['i', '\u0307']
  else match lowerShift? lowerRuns c.toNat with
    | some shift => [Char.ofNat (c.toNat + shift).toNat]
    | none => [c]

/-- A cased letter follows, with nothing but ignorable characters before it. -/
def casedFollows (cs : List Char) : Bool :=
  match cs.dropWhile isCaseIgnorable with
  | [] => false
  | c :: _ => isCased c

/-- The lower-case form of a text that comes after a cased letter or not, ignorable characters
aside. A capital sigma after a cased letter and before none is a final one. -/
def lowerFrom (afterCased : Bool) : List Char → List Char
  | [] => []
  | c :: cs =>
    let here :=
      if c == 'Σ' then [if afterCased && !casedFollows cs then 'ς' else 'σ'] else lowerChar c
    here ++ lowerFrom (if isCaseIgnorable c then afterCased else isCased c) cs

/-- The lower-case form of a list of characters. -/
def lowerList (cs : List Char) : List Char := lowerFrom false cs

/-- The lower-case form of a text. -/
def lower (s : String) : String := String.ofList (lowerList s.toList)

/-! ## ASCII -/

theorem lowerChar_ascii {c : Char} (h : c.toNat < 0x80) : lowerChar c = [c.toLower] := by
  simp [lowerChar, h]

end SlashLine.Text
