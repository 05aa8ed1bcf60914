import SlashLine.Config.Merge

/-!
# Reading merged entries

What a key holds after a merge is decided by what it holds in the two layers alone. Keys that are
equal as keys, such as a whole number and the truth value that equals it, hold the same.

* `mergeValue`: a value on top of the one below it.
* `lookup?_merge`: what a key of merged entries holds.
* `forall_key_merge`: keys are neither lost nor changed, so what all keys of the upper layer have in
  common, those of the merge have if those below have it.
-/

namespace SlashLine.Config

/-- No two entries have the same key. -/
def DistinctKeys (entries : List (Scalar × Value)) : Prop :=
  (entries.map fun entry => entry.1.asKey).Nodup

/-- A value on top of what is below it, if anything is: mappings are merged, everything else is
replaced. -/
def mergeValue (below : Option Value) : Value → Value
  | .mapping entries =>
    match below with
    | some (.mapping base) => .mapping (merge base entries)
    | _ => .mapping entries
  | value => value

variable {key key' : Scalar} {value : Value} {base upper : List (Scalar × Value)}

theorem lookup?_congr (h : key.asKey = key'.asKey) (entries : List (Scalar × Value)) :
    Value.lookup? key entries = Value.lookup? key' entries := by
  induction entries with
  | nil => rfl
  | cons entry entries ih => rw [Value.lookup?, Value.lookup?, h, ih]

theorem lookup?_of_not_mem {entries : List (Scalar × Value)}
    (h : key.asKey ∉ entries.map fun entry => entry.1.asKey) :
    Value.lookup? key entries = none := by
  induction entries with
  | nil => rfl
  | cons entry entries ih =>
    rw [List.map_cons, List.mem_cons, not_or] at h
    rw [Value.lookup?, if_neg (Ne.symm h.1), ih h.2]

/-- An entry is set to what its value makes of the one below it. -/
theorem mergeEntry_eq (base : List (Scalar × Value)) (key : Scalar) (value : Value) :
    mergeEntry base key value =
      Value.setEntry key (mergeValue (Value.lookup? key base) value) base := by
  cases value with
  | scalar s => simp [mergeEntry, mergeValue]
  | list items => simp [mergeEntry, mergeValue]
  | mapping entries =>
    rw [mergeEntry.eq_def, mergeValue.eq_def]
    dsimp only
    cases Value.lookup? key base with
    | none => rfl
    | some below => cases below <;> rfl

/-- The layers are read key by key: a key of the upper layer lies on what the same key holds below,
and no other entry of the layer touches it. -/
theorem lookup?_merge (hupper : DistinctKeys upper) (key : Scalar) (base : List (Scalar × Value)) :
    Value.lookup? key (merge base upper) =
      match Value.lookup? key upper with
      | none => Value.lookup? key base
      | some value => some (mergeValue (Value.lookup? key base) value) := by
  induction upper generalizing base with
  | nil => rw [merge, Value.lookup?]
  | cons entry upper ih =>
    obtain ⟨key', value⟩ := entry
    obtain ⟨hkey, hrest⟩ := List.nodup_cons.mp hupper
    rw [merge, ih hrest, mergeEntry_eq, Value.lookup?_setEntry, Value.lookup?]
    by_cases hsame : key'.asKey = key.asKey
    · have hlater : key.asKey ∉ upper.map fun entry => entry.1.asKey := hsame ▸ hkey
      simp only [lookup?_of_not_mem hlater, if_pos hsame, lookup?_congr hsame base]
    · simp only [if_neg hsame]

/-! ## Keys -/

variable {p : Scalar → Prop}

theorem forall_key_setEntry {entries : List (Scalar × Value)} (hkey : p key) (value : Value) :
    (∀ entry ∈ Value.setEntry key value entries, p entry.1) ↔ ∀ entry ∈ entries, p entry.1 := by
  induction entries with
  | nil =>
    refine ⟨fun _ entry hentry => absurd hentry List.not_mem_nil, fun _ entry hentry => ?_⟩
    rw [List.mem_singleton.mp hentry]
    exact hkey
  | cons first entries ih =>
    rw [Value.setEntry]
    split
    · rw [List.forall_mem_cons, List.forall_mem_cons]
    · rw [List.forall_mem_cons, List.forall_mem_cons, ih]

/-- If a property of keys holds of the upper layer, it holds after a merge exactly if it did
before. -/
theorem forall_key_merge (hupper : ∀ entry ∈ upper, p entry.1) (base : List (Scalar × Value)) :
    (∀ entry ∈ merge base upper, p entry.1) ↔ ∀ entry ∈ base, p entry.1 := by
  induction upper generalizing base with
  | nil => rw [merge]
  | cons first upper ih =>
    obtain ⟨hfirst, hlater⟩ := List.forall_mem_cons.mp hupper
    rw [merge, mergeEntry_eq, ih hlater, forall_key_setEntry hfirst]

end SlashLine.Config
