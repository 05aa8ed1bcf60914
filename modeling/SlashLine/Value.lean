import SlashLine.Scalar

/-!
# Nested values

What configuration files and metadata hold: plain values, lists, and mappings with plain keys in
the order of their first appearance.

* `Value.lookup?_setEntry`: what a key of a mapping holds after a write.
-/

namespace SlashLine

/-- A plain value, a list, or a mapping. -/
inductive Value where
  | scalar (s : Scalar)
  | list (items : List Value)
  | mapping (entries : List (Scalar × Value))

namespace Scalar

/-- As keys, truth values and floating-point numbers without a fraction are the whole numbers they
equal. -/
def asKey : Scalar → Scalar
  | bool b => int (if b then 1 else 0)
  | float x =>
    match x.isIntegral, x.truncate with
    | true, .ok i => int i
    | _, _ => float x
  | s => s

end Scalar

namespace Value

instance : Inhabited Value := ⟨scalar .null⟩

/-- A text. -/
def text (s : String) : Value := scalar (.text s)

/-- No value. -/
def null : Value := scalar .null

/-- The value of the first entry with a key. -/
def lookup? (k : Scalar) : List (Scalar × Value) → Option Value
  | [] => none
  | (k', v) :: rest => if k'.asKey = k.asKey then some v else lookup? k rest

/-- Entries with a value written to a key: in its place if it is there, at the end if not. -/
def setEntry (k : Scalar) (v : Value) : List (Scalar × Value) → List (Scalar × Value)
  | [] => [(k, v)]
  | (k', v') :: rest =>
    if k'.asKey = k.asKey then (k', v) :: rest else (k', v') :: setEntry k v rest

/-- The entries of a mapping. -/
def entries? : Value → Option (List (Scalar × Value))
  | mapping es => some es
  | _ => none

/-- Zero, an empty text, an empty list, an empty mapping, false and nothing count as absent. -/
def isEmptyLike : Value → Bool
  | scalar .null => true
  | scalar (.bool b) => !b
  | scalar (.int i) => i == 0
  | scalar (.float x) => x.units? == some 0
  | scalar (.text s) => s.isEmpty
  | scalar (.moment _) => false
  | scalar (.bytes b) => b.isEmpty
  | scalar (.unpaired _) => false
  | list items => items.isEmpty
  | mapping entries => entries.isEmpty

theorem lookup?_setEntry (k k' : Scalar) (v : Value) (es : List (Scalar × Value)) :
    lookup? k' (setEntry k v es) = if k.asKey = k'.asKey then some v else lookup? k' es := by
  induction es with
  | nil => simp [setEntry, lookup?]
  | cons p rest ih => grind [setEntry, lookup?]

end Value

end SlashLine
