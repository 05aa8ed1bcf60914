import SlashLine.Text.LowerCase
import SlashLine.Value

/-!
# Merging configurations

One mapping on top of another: mappings that meet are merged key by key, and everything else is
replaced.

* `merge`: the merged entries.
* `withoutNulls`: a mapping without what is not set, at any depth.
-/

namespace SlashLine.Config

mutual

/-- An entry on top of others: mappings under its key are merged, everything else is replaced. -/
def mergeEntry (base : List (Scalar × Value)) (key : Scalar) :
    Value → List (Scalar × Value)
  | .mapping entries =>
    match Value.lookup? key base with
    | some (.mapping below) => Value.setEntry key (.mapping (merge below entries)) base
    | _ => Value.setEntry key (.mapping entries) base
  | value => Value.setEntry key value base

/-- Entries on top of others, one after the other. -/
def merge (base : List (Scalar × Value)) : List (Scalar × Value) → List (Scalar × Value)
  | [] => base
  | (key, value) :: rest => merge (mergeEntry base key value) rest

end

mutual

/-- A value without the keys that hold nothing, in mappings within mappings. -/
def withoutNulls : Value → Value
  | .mapping entries => .mapping (entriesWithoutNulls entries)
  | value => value

/-- Entries without those that hold nothing. -/
def entriesWithoutNulls : List (Scalar × Value) → List (Scalar × Value)
  | [] => []
  | (key, value) :: rest =>
    match value with
    | .scalar .null => entriesWithoutNulls rest
    | value => (key, withoutNulls value) :: entriesWithoutNulls rest

end

/-- The words for true in the environment. -/
def yesWords : List String := ["true", "1", "yes", "on"]

/-- A text as a truth value; any other value is left as it is. -/
def textAsBool : Value → Value
  | .scalar (.text s) => .scalar (.bool (yesWords.contains (Text.lower s)))
  | .scalar (.unpaired _) => .scalar (.bool false)
  | value => value

end SlashLine.Config
