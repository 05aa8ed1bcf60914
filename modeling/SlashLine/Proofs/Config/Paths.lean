import SlashLine.Proofs.Config.Merging

/-!
# Merged configurations, path by path

What a path of keys leads to in merged entries is decided by what it leads to in the two layers.
The induction is on the path: its first key picks a value of the upper layer and what lies below it,
and the rest of the path is read in these two as the whole path is in the layers. Where no mapping
lies below a mapping, it is as if an empty one did.

* `at?`: what a path leads to.
* `at?_mergeValue`: a path that leads somewhere in the upper layer.
* `at?_mergeValue_of_open`: a path that leads nowhere in it, and is not cut off there.
* `mergeValue_mergeValue`: a layer that is merged again changes nothing.
* `merge_by_path`: all paths.
-/

namespace SlashLine.Config

/-- What a path of keys leads to, through mappings within mappings. -/
def at? : List Scalar → Value → Option Value
  | [], value => some value
  | key :: path, .mapping entries => (Value.lookup? key entries).bind (at? path)
  | _ :: _, _ => none

/-- The value is no mapping. -/
def IsLeaf (value : Value) : Prop := ∀ entries, value ≠ .mapping entries

/-- In a mapping, and in those within it, no two entries have the same key. -/
inductive WellKeyed : Value → Prop
  | scalar (s : Scalar) : WellKeyed (.scalar s)
  | list (items : List Value) : WellKeyed (.list items)
  | mapping {entries : List (Scalar × Value)} (hdistinct : DistinctKeys entries)
      (hinner : ∀ key value, (key, value) ∈ entries → WellKeyed value) :
      WellKeyed (.mapping entries)

/-- The path goes on where the value has something that is no mapping. -/
def CutOff (path : List Scalar) (value : Value) : Prop :=
  ∃ start rest leaf, path = start ++ rest ∧ rest ≠ [] ∧ at? start value = some leaf ∧ IsLeaf leaf

variable {key : Scalar} {path : List Scalar} {value inner leaf : Value}
  {entries base upper : List (Scalar × Value)}

/-! ## Entries -/

theorem exists_mem_of_lookup? (h : Value.lookup? key entries = some value) :
    ∃ key', (key', value) ∈ entries := by
  induction entries with
  | nil => cases h
  | cons entry entries ih =>
    rw [Value.lookup?] at h
    split at h
    · cases h
      exact ⟨entry.1, List.mem_cons_self⟩
    · obtain ⟨key', hmem⟩ := ih h
      exact ⟨key', List.mem_cons_of_mem entry hmem⟩

/-- In a mapping without repeated keys every entry is found under its key. -/
theorem lookup?_of_mem (hdistinct : DistinctKeys entries) (h : (key, value) ∈ entries) :
    Value.lookup? key entries = some value := by
  induction entries with
  | nil => cases h
  | cons entry entries ih =>
    obtain ⟨hentry, hrest⟩ := List.nodup_cons.mp hdistinct
    rw [Value.lookup?]
    rcases List.mem_cons.mp h with rfl | hlater
    · exact if_pos rfl
    · have hkey : key.asKey ∈ entries.map fun entry => entry.1.asKey := List.mem_map_of_mem hlater
      have hne : entry.1.asKey ≠ key.asKey := by
        intro heq
        rw [← heq] at hkey
        exact hentry hkey
      rw [if_neg hne, ih hrest hlater]

/-- To set what is there already changes nothing, and neither does it change the order. -/
theorem setEntry_of_lookup? (h : Value.lookup? key entries = some value) :
    Value.setEntry key value entries = entries := by
  induction entries with
  | nil => cases h
  | cons entry entries ih =>
    rw [Value.lookup?] at h
    rw [Value.setEntry]
    split at h
    · next hkey =>
      cases h
      rw [if_pos hkey]
    · next hkey => rw [if_neg hkey, ih h]

theorem setEntry_of_not_mem (h : key.asKey ∉ entries.map fun entry => entry.1.asKey)
    (value : Value) : Value.setEntry key value entries = entries ++ [(key, value)] := by
  induction entries with
  | nil => rfl
  | cons entry entries ih =>
    rw [List.map_cons, List.mem_cons, not_or] at h
    rw [Value.setEntry, if_neg (Ne.symm h.1), ih h.2, List.cons_append]

theorem WellKeyed.distinct (h : WellKeyed (.mapping entries)) : DistinctKeys entries := by
  cases h with
  | mapping hdistinct => exact hdistinct

/-- What is found in a mapping without repeated keys has none either. -/
theorem WellKeyed.of_lookup? (h : WellKeyed (.mapping entries))
    (hinner : Value.lookup? key entries = some inner) : WellKeyed inner := by
  obtain ⟨key', hmem⟩ := exists_mem_of_lookup? hinner
  cases h with
  | mapping _ hvalues => exact hvalues key' inner hmem

/-! ## Two layers -/

/-- What is no mapping goes over whatever is below it. -/
theorem mergeValue_of_leaf (h : IsLeaf value) (below : Option Value) :
    mergeValue below value = value := by
  cases value with
  | scalar s => rfl
  | list items => rfl
  | mapping entries => exact absurd rfl (h entries)

/-- A mapping over something else is kept as it is. -/
theorem mergeValue_of_no_mapping {below : Option Value}
    (h : ∀ base, below ≠ some (.mapping base)) (entries : List (Scalar × Value)) :
    mergeValue below (.mapping entries) = .mapping entries := by
  cases below with
  | none => rfl
  | some value =>
    cases value with
    | scalar s => rfl
    | list items => rfl
    | mapping base => exact absurd rfl (h base)

/-- New keys are added at the end. -/
theorem merge_eq_append (h : DistinctKeys (base ++ upper)) : merge base upper = base ++ upper := by
  induction upper generalizing base with
  | nil => rw [merge, List.append_nil]
  | cons entry upper ih =>
    obtain ⟨key, value⟩ := entry
    have hsplit : base ++ (key, value) :: upper = base ++ [(key, value)] ++ upper := by simp
    have hnew : key.asKey ∉ base.map fun entry => entry.1.asKey := by
      intro hmem
      rw [DistinctKeys, List.map_append, List.nodup_append] at h
      exact h.2.2 _ hmem _ List.mem_cons_self rfl
    have hvalue : mergeValue none value = value := by cases value <;> rfl
    rw [merge, mergeEntry_eq, lookup?_of_not_mem hnew, hvalue, setEntry_of_not_mem hnew, hsplit,
      ih (hsplit ▸ h)]

theorem merge_nil_left (h : DistinctKeys upper) : merge [] upper = upper := merge_eq_append h

/-- The entries that a mapping is merged with: none where no mapping is below it. -/
def entriesBelow : Option Value → List (Scalar × Value)
  | some (.mapping base) => base
  | _ => []

theorem mergeValue_mapping (h : DistinctKeys entries) (below : Option Value) :
    mergeValue below (.mapping entries) = .mapping (merge (entriesBelow below) entries) := by
  have halone : Value.mapping entries = .mapping (merge [] entries) := by rw [merge_nil_left h]
  cases below with
  | none => exact halone
  | some value =>
    cases value with
    | mapping base => rfl
    | scalar s => exact halone
    | list items => exact halone

/-- A merge changes nothing if none of its entries does. -/
theorem merge_of_kept (h : ∀ key value, (key, value) ∈ upper → mergeEntry base key value = base) :
    merge base upper = base := by
  induction upper with
  | nil => rw [merge]
  | cons entry upper ih =>
    obtain ⟨key, value⟩ := entry
    rw [merge, h key value List.mem_cons_self]
    exact ih fun key value hmem => h key value (List.mem_cons_of_mem _ hmem)

/-- The induction is on the value: an entry finds under its key what it made there, which is the
same question for the value of the entry. -/
theorem mergeValue_mergeValue (h : WellKeyed value) (below : Option Value) :
    mergeValue (some (mergeValue below value)) value = mergeValue below value := by
  induction h generalizing below with
  | scalar s => rfl
  | list items => rfl
  | @mapping entries hdistinct _ ih =>
    rw [mergeValue_mapping hdistinct below]
    show Value.mapping (merge (merge (entriesBelow below) entries) entries) = _
    rw [merge_of_kept]
    intro key value hmem
    have hmerged := lookup?_merge hdistinct key (entriesBelow below)
    rw [lookup?_of_mem hdistinct hmem] at hmerged
    rw [mergeEntry_eq, hmerged, ih key value hmem, setEntry_of_lookup? hmerged]

/-! ## Paths -/

theorem at?_append (start rest : List Scalar) (value : Value) :
    at? (start ++ rest) value = (at? start value).bind (at? rest) := by
  induction start generalizing value with
  | nil => rfl
  | cons key start ih =>
    cases value with
    | scalar s => rfl
    | list items => rfl
    | mapping entries =>
      rw [List.cons_append, at?, at?, Option.bind_assoc]
      exact Option.bind_congr fun inner _ => ih inner

theorem at?_of_leaf (h : IsLeaf leaf) (hpath : path ≠ []) : at? path leaf = none := by
  cases path with
  | nil => exact absurd rfl hpath
  | cons key path =>
    cases leaf with
    | scalar s => rfl
    | list items => rfl
    | mapping entries => exact absurd rfl (h entries)

theorem bind_at?_cons (key : Scalar) (path : List Scalar) (below : Option Value) :
    below.bind (at? (key :: path)) =
      (Value.lookup? key (entriesBelow below)).bind (at? path) := by
  cases below with
  | none => rfl
  | some value => cases value <;> rfl

/-- A value that a path leads to in the upper layer lies on what the path leads to below. -/
theorem at?_mergeValue (hvalue : WellKeyed value) (h : at? path value = some inner)
    (below : Option Value) :
    at? path (mergeValue below value) = some (mergeValue (below.bind (at? path)) inner) := by
  induction path generalizing value below with
  | nil =>
    cases h
    cases below <;> rfl
  | cons key path ih =>
    cases value with
    | scalar s => cases h
    | list items => cases h
    | mapping entries =>
      obtain ⟨next, hnext, hinner⟩ := Option.bind_eq_some_iff.mp h
      rw [mergeValue_mapping hvalue.distinct, bind_at?_cons, at?, lookup?_merge hvalue.distinct,
        hnext]
      exact ih (hvalue.of_lookup? hnext) hinner _

theorem CutOff.cons (hinner : Value.lookup? key entries = some inner) (h : CutOff path inner) :
    CutOff (key :: path) (.mapping entries) := by
  obtain ⟨start, rest, leaf, rfl, hrest, hstart, hleaf⟩ := h
  refine ⟨key :: start, rest, leaf, rfl, hrest, ?_, hleaf⟩
  rw [at?, hinner]
  exact hstart

theorem cutOff_of_leaf (h : IsLeaf leaf) (hpath : path ≠ []) : CutOff path leaf :=
  ⟨[], path, leaf, rfl, hpath, rfl, h⟩

/-- Where the way to the last key leads to a mapping, the path is not cut off. -/
theorem not_cutOff_of_mapping (h : at? path value = some (.mapping entries)) (key : Scalar) :
    ¬ CutOff (path ++ [key]) value := by
  rintro ⟨start, rest, leaf, hsplit, hrest, hstart, hleaf⟩
  rw [← List.dropLast_concat_getLast hrest, ← List.append_assoc] at hsplit
  obtain ⟨rfl, -⟩ := List.append_inj' hsplit rfl
  rw [at?_append, hstart, Option.bind_some] at h
  by_cases hway : rest.dropLast = []
  · rw [hway] at h
    exact hleaf entries (Option.some.inj h)
  · rw [at?_of_leaf hleaf hway] at h
    cases h

/-- A path that is cut off in the upper layer leads nowhere, whatever lies below. -/
theorem at?_mergeValue_of_cutOff (hvalue : WellKeyed value) (h : CutOff path value)
    (below : Option Value) : at? path (mergeValue below value) = none := by
  obtain ⟨start, rest, leaf, rfl, hrest, hstart, hleaf⟩ := h
  rw [at?_append, at?_mergeValue hvalue hstart, mergeValue_of_leaf hleaf, Option.bind_some,
    at?_of_leaf hleaf hrest]

/-- A path that leads nowhere in the upper layer, but is not cut off there, leads where it leads
below. -/
theorem at?_mergeValue_of_open (hvalue : WellKeyed value) (h : at? path value = none)
    (hopen : ¬ CutOff path value) (below : Option Value) :
    at? path (mergeValue below value) = below.bind (at? path) := by
  induction path generalizing value below with
  | nil => cases h
  | cons key path ih =>
    have hpath : key :: path ≠ [] := List.cons_ne_nil key path
    cases value with
    | scalar s => exact absurd (cutOff_of_leaf (fun entries h => by cases h) hpath) hopen
    | list items => exact absurd (cutOff_of_leaf (fun entries h => by cases h) hpath) hopen
    | mapping entries =>
      rw [mergeValue_mapping hvalue.distinct, bind_at?_cons, at?, lookup?_merge hvalue.distinct]
      cases hnext : Value.lookup? key entries with
      | none => rfl
      | some next =>
        rw [at?, hnext] at h
        exact ih (hvalue.of_lookup? hnext) h (fun hcut => hopen (hcut.cons hnext)) _

/-- What a path leads to in merged entries, by what it leads to in the two layers. -/
structure SettledAt (path : List Scalar) (base upper merged : List (Scalar × Value)) : Prop where
  leaf : ∀ value, at? path (.mapping upper) = some value → IsLeaf value →
    at? path (.mapping merged) = some value
  nested : ∀ entries below, at? path (.mapping upper) = some (.mapping entries) →
    at? path (.mapping base) = some (.mapping below) →
    at? path (.mapping merged) = some (.mapping (merge below entries))
  alone : ∀ entries, at? path (.mapping upper) = some (.mapping entries) →
    (∀ below, at? path (.mapping base) ≠ some (.mapping below)) →
    at? path (.mapping merged) = some (.mapping entries)
  cutOff : at? path (.mapping upper) = none → CutOff path (.mapping upper) →
    at? path (.mapping merged) = none
  kept : at? path (.mapping upper) = none → ¬ CutOff path (.mapping upper) →
    at? path (.mapping merged) = at? path (.mapping base)

/-- What is found on a path after a merge is decided by the two layers on that path alone. -/
theorem settledAt_merge (hupper : WellKeyed (.mapping upper)) (base : List (Scalar × Value))
    (path : List Scalar) : SettledAt path base upper (merge base upper) where
  leaf value hvalue hleaf := by
    have hmerged := at?_mergeValue hupper hvalue (some (.mapping base))
    rw [mergeValue_of_leaf hleaf] at hmerged
    exact hmerged
  nested entries below hentries hbelow := by
    have hmerged := at?_mergeValue hupper hentries (some (.mapping base))
    rw [Option.bind_some, hbelow] at hmerged
    exact hmerged
  alone entries hentries hbelow := by
    have hmerged := at?_mergeValue hupper hentries (some (.mapping base))
    rw [Option.bind_some, mergeValue_of_no_mapping hbelow] at hmerged
    exact hmerged
  cutOff _ hcut := at?_mergeValue_of_cutOff hupper hcut (some (.mapping base))
  kept hnone hopen := at?_mergeValue_of_open hupper hnone hopen (some (.mapping base))

/-- Merged entries are decided path by path. A value of the upper layer that is no mapping stands as
it is, and a mapping is merged with the one below it, if there is one. Where the upper layer has
nothing, the lower one shows through, unless the way there ends in the upper layer. An empty layer
changes nothing, and neither does a layer that is merged again. -/
theorem merge_by_path (hupper : WellKeyed (.mapping upper)) (base : List (Scalar × Value)) :
    (∀ path, SettledAt path base upper (merge base upper)) ∧
      merge base [] = base ∧
      merge [] upper = upper ∧
      merge (merge base upper) upper = merge base upper := by
  refine ⟨settledAt_merge hupper base, ?_, merge_nil_left hupper.distinct, ?_⟩
  · rw [merge]
  · exact Value.mapping.inj (mergeValue_mergeValue hupper (some (.mapping base)))

/-- The settings of a file. -/
def plainLayer : List (Scalar × Value) :=
  [(.text "ui", .mapping [(.text "width", .scalar (.int 80)), (.text "colours", .text "on")]),
    (.text "router", .mapping [(.text "tips", .scalar (.int 3))]), (.text "level", .text "INFO")]

/-- Settings with a mapping in place of a text, and the other way round. -/
def crossedLayer : List (Scalar × Value) :=
  [(.text "level", .mapping [(.text "root", .text "DEBUG")]), (.text "router", .text "none"),
    (.text "ui", .mapping [(.text "colours", .text "off")])]

theorem wellKeyed_crossedLayer : WellKeyed (.mapping crossedLayer) := by
  have hsingle (key : String) (text : String) :
      WellKeyed (.mapping [(.text key, .text text)]) := by
    refine .mapping (List.pairwise_singleton _ _) fun key value hmem => ?_
    cases List.mem_singleton.mp hmem
    exact .scalar _
  have hdistinct : (crossedLayer.map fun entry => entry.1.asKey).Nodup := by decide
  refine .mapping hdistinct fun key value hmem => ?_
  simp only [crossedLayer, List.mem_cons, Prod.mk.injEq, List.not_mem_nil, or_false] at hmem
  obtain ⟨-, rfl⟩ | ⟨-, rfl⟩ | ⟨-, rfl⟩ := hmem
  · exact hsingle _ _
  · exact .scalar _
  · exact hsingle _ _

theorem crossed_layers_merged :
    WellKeyed (.mapping crossedLayer) ∧
      at? [.text "ui", .text "colours"] (.mapping (merge plainLayer crossedLayer)) =
        some (.text "off") ∧
      at? [.text "ui", .text "width"] (.mapping (merge plainLayer crossedLayer)) =
        some (.scalar (.int 80)) ∧
      at? [.text "level"] (.mapping (merge plainLayer crossedLayer)) =
        some (.mapping [(.text "root", .text "DEBUG")]) ∧
      at? [.text "router", .text "tips"] (.mapping (merge plainLayer crossedLayer)) = none ∧
      merge (merge plainLayer crossedLayer) crossedLayer = merge plainLayer crossedLayer := by
  obtain ⟨hpaths, -, -, hagain⟩ := merge_by_path wellKeyed_crossedLayer plainLayer
  refine ⟨wellKeyed_crossedLayer, ?_, ?_, ?_, ?_, hagain⟩
  · exact (hpaths _).leaf _ rfl fun entries h => by cases h
  · have hway : at? [.text "ui"] (.mapping crossedLayer) =
        some (.mapping [(.text "colours", .text "off")]) := rfl
    exact (hpaths _).kept rfl (not_cutOff_of_mapping hway (.text "width"))
  · exact (hpaths _).alone _ rfl fun below h => by cases h
  · refine (hpaths _).cutOff rfl ⟨[.text "router"], [.text "tips"], .text "none", rfl, ?_, rfl, ?_⟩
    · exact List.cons_ne_nil _ _
    · exact fun entries h => by cases h

end SlashLine.Config
