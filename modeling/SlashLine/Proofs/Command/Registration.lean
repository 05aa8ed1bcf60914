import SlashLine.Command.Schema

/-!
# The history of a catalogue

Commands are registered and removed, and everything may be removed at once. A history of such
changes, the newest first, says by itself which schema stands for a name and when the name arrived.
An override is no arrival: the name was there already. That the catalogue lists its names by arrival
and looks everything up as the history says is kept by every change.

* `Changes.schema?`, `Changes.arrival?`: what a history says about a name.
* `Catalog.Reflects`: all that is read from a catalogue agrees with a history.
* `Catalog.reflects_changes`: the catalogue after any changes reflects them, and a change of one
  name leaves the others alone.
-/

namespace SlashLine.Command

/-! ## Histories -/

/-- Something that is done to a catalogue. -/
inductive Change where
  | register (schema : Schema)
  | unregister (name : String)
  | clear

/-- The name that a change is about, if it is about one. -/
def Change.name? : Change → Option String
  | register schema => some schema.name
  | unregister name => some name
  | clear => none

/-- What was done to a catalogue, the newest change first. -/
abbrev Changes := List Change

namespace Changes

/-- The schema that was registered last under a name, unless the name was removed since. -/
def schema? (name : String) : Changes → Option Schema
  | [] => none
  | .register schema :: past => if schema.name = name then some schema else schema? name past
  | .unregister removed :: past => if removed = name then none else schema? name past
  | .clear :: _ => none

/-- How many changes there were before the registration that made a name present. -/
def arrival? (name : String) : Changes → Option Nat
  | [] => none
  | .register schema :: past =>
    if schema.name = name then (arrival? name past).or (some past.length) else arrival? name past
  | .unregister removed :: past => if removed = name then none else arrival? name past
  | .clear :: _ => none

/-- Both names are present, and one arrived before the other. -/
def ArrivedBefore (past : Changes) (earlier later : String) : Prop :=
  ∃ i j, arrival? earlier past = some i ∧ arrival? later past = some j ∧ i < j

/-- The names that a history leaves present and that have a property, by arrival. -/
structure Lists (past : Changes) (p : String → Prop) (names : List String) : Prop where
  mem : ∀ name, name ∈ names ↔ (past.schema? name).isSome = true ∧ p name
  order : names.Pairwise past.ArrivedBefore

variable {past : Changes} {name : String} {schema : Schema}

theorem name_of_schema? (h : schema? name past = some schema) : schema.name = name := by
  induction past with
  | nil => cases h
  | cons change past ih =>
    cases change with
    | register latest =>
      rw [schema?] at h
      split at h
      · next hname =>
        cases h
        exact hname
      · exact ih h
    | unregister removed =>
      rw [schema?] at h
      split at h
      · cases h
      · exact ih h
    | clear => cases h

/-- A name that is present has arrived when it had before, also if it is registered again. -/
theorem arrival?_register_of_some {i : Nat} (h : arrival? name past = some i) (schema : Schema) :
    arrival? name (.register schema :: past) = some i := by
  rw [arrival?, h, Option.some_or, ite_self]

/-- A name that is new arrives with its registration. -/
theorem arrival?_register_of_none (h : arrival? schema.name past = none) :
    arrival? schema.name (.register schema :: past) = some past.length := by
  rw [arrival?, if_pos rfl, h, Option.none_or]

theorem isSome_arrival? (name : String) (past : Changes) :
    (arrival? name past).isSome = (schema? name past).isSome := by
  induction past with
  | nil => rfl
  | cons change past ih =>
    cases change with
    | register latest =>
      rw [arrival?, schema?]
      split
      · rw [Option.isSome_or, Option.isSome_some, Option.isSome_some, Bool.or_true]
      · exact ih
    | unregister removed =>
      rw [arrival?, schema?]
      split
      · rfl
      · exact ih
    | clear => rfl

theorem arrival?_lt {i : Nat} (h : arrival? name past = some i) : i < past.length := by
  induction past generalizing i with
  | nil => cases h
  | cons change past ih =>
    rw [List.length_cons]
    cases change with
    | register latest =>
      rw [arrival?] at h
      split at h
      · rcases Option.or_eq_some_iff.mp h with hbefore | ⟨-, hnew⟩
        · have := ih hbefore
          omega
        · cases hnew
          omega
      · have := ih h
        omega
    | unregister removed =>
      rw [arrival?] at h
      split at h
      · cases h
      · have := ih h
        omega
    | clear => cases h

end Changes

namespace Catalog

/-- The catalogue after a change. -/
def change (catalog : Catalog) : Change → Catalog
  | .register schema => catalog.register schema
  | .unregister name => (catalog.remove name).2
  | .clear => catalog.clear

/-- The catalogue after a history of changes. -/
def after : Changes → Catalog
  | [] => {}
  | latest :: past => (after past).change latest

/-- All that is read from a catalogue agrees with a history. -/
structure Reflects (catalog : Catalog) (past : Changes) : Prop where
  distinct : catalog.names.Nodup
  mem_names : ∀ name, name ∈ catalog.names ↔ (past.schema? name).isSome = true
  order : catalog.names.Pairwise past.ArrivedBefore
  get? : ∀ name, catalog.get? name = past.schema? name
  contains : ∀ name, catalog.contains name = (past.schema? name).isSome
  schemas : catalog.schemas.map some = catalog.names.map past.schema?
  names : catalog.schemas.map Schema.name = catalog.names
  size : catalog.size = catalog.names.length
  remove : ∀ name, (catalog.remove name).1 = (past.schema? name).isSome

variable {past : Changes}

theorem names_unregister (catalog : Catalog) (name : String) :
    (catalog.unregister name).names = catalog.names.filter (· ≠ name) :=
  Slots.keys_erase catalog.slots name

theorem get?_unregister (catalog : Catalog) (name name' : String) :
    (catalog.unregister name).get? name' = if name = name' then none else catalog.get? name' :=
  Slots.get?_erase catalog.slots name name'

/-- After any changes a name finds the schema that it was last registered with, unless it was taken
away since. -/
theorem get?_after (past : Changes) (name : String) :
    (after past).get? name = past.schema? name := by
  induction past with
  | nil => rfl
  | cons latest past ih =>
    cases latest with
    | register schema => rw [after, change, get?_register, ih, Changes.schema?]
    | unregister removed =>
      exact (get?_unregister _ removed name).trans (by rw [ih, Changes.schema?])
    | clear => rfl

theorem mem_names_iff (catalog : Catalog) (name : String) :
    name ∈ catalog.names ↔ (catalog.get? name).isSome = true :=
  (Slots.contains_iff catalog.slots name).symm

theorem schemas_map_some (catalog : Catalog) :
    catalog.schemas.map some = catalog.names.map catalog.get? := by
  simp only [schemas, names, Slots.values, Slots.keys, List.map_map]
  refine List.map_congr_left fun pair hpair => ?_
  exact ((Slots.mem_entries_iff catalog.slots pair.1 pair.2).mp hpair).symm

/-- The schemas are listed in the order of their names. -/
theorem map_name_schemas (past : Changes) :
    (after past).schemas.map Schema.name = (after past).names := by
  simp only [schemas, names, Slots.values, Slots.keys, List.map_map]
  refine List.map_congr_left fun pair hpair => ?_
  have hget : (after past).get? pair.1 = some pair.2 :=
    (Slots.mem_entries_iff (after past).slots pair.1 pair.2).mp hpair
  rw [get?_after] at hget
  exact Changes.name_of_schema? hget

theorem mem_names_after (past : Changes) (name : String) :
    name ∈ (after past).names ↔ (past.schema? name).isSome = true := by
  rw [mem_names_iff, get?_after]

/-- The induction is on the changes. An override leaves the arrivals as they are, a new name has
arrived after all others, and a removal touches no arrival but that of the name it removes. -/
theorem names_by_arrival (past : Changes) : (after past).names.Pairwise past.ArrivedBefore := by
  induction past with
  | nil => exact List.Pairwise.nil
  | cons latest past ih =>
    cases latest with
    | register schema =>
      have hkept :
          (after past).names.Pairwise (Changes.ArrivedBefore (.register schema :: past)) := by
        refine ih.imp ?_
        rintro earlier later ⟨i, j, hi, hj, hlt⟩
        exact ⟨i, j, Changes.arrival?_register_of_some hi schema,
          Changes.arrival?_register_of_some hj schema, hlt⟩
      rw [after, change, names_register]
      split
      · exact hkept
      · next hnew =>
        refine List.pairwise_append.mpr ⟨hkept, List.pairwise_singleton _ _, ?_⟩
        intro earlier hearlier later hlater
        rw [List.mem_singleton.mp hlater]
        have hpresent := (mem_names_after past earlier).mp hearlier
        rw [← Changes.isSome_arrival?] at hpresent
        obtain ⟨i, hi⟩ := Option.isSome_iff_exists.mp hpresent
        have habsent : Changes.arrival? schema.name past = none := by
          rw [mem_names_after, ← Changes.isSome_arrival?, Bool.not_eq_true] at hnew
          exact Option.isNone_iff_eq_none.mp (by simpa using hnew)
        exact ⟨i, past.length, Changes.arrival?_register_of_some hi schema,
          Changes.arrival?_register_of_none habsent, Changes.arrival?_lt hi⟩
    | unregister removed =>
      have hnames : (after (.unregister removed :: past)).names =
          (after past).names.filter (· ≠ removed) := names_unregister (after past) removed
      rw [hnames]
      refine (ih.filter _).imp_of_mem ?_
      rintro earlier later hearlier hlater ⟨i, j, hi, hj, hlt⟩
      have harrival {name : String} (hmem : name ∈ (after past).names.filter (· ≠ removed)) :
          Changes.arrival? name (.unregister removed :: past) = Changes.arrival? name past := by
        have hne : name ≠ removed := of_decide_eq_true (List.mem_filter.mp hmem).2
        rw [Changes.arrival?, if_neg hne.symm]
      exact ⟨i, j, (harrival hearlier).trans hi, (harrival hlater).trans hj, hlt⟩
    | clear => exact List.Pairwise.nil

/-- The names that pass a filter are listed by their arrival. -/
theorem lists_filter (past : Changes) (p : String → Prop) [DecidablePred p] :
    past.Lists p ((after past).names.filter p) where
  mem name := by rw [List.mem_filter, mem_names_after, decide_eq_true_iff]
  order := (names_by_arrival past).filter _

/-! ## Other names -/

/-- A change does not touch what other names find. -/
theorem get?_change_of_ne (catalog : Catalog) {latest : Change} {touched name : String}
    (htouched : latest.name? = some touched) (hne : name ≠ touched) :
    (catalog.change latest).get? name = catalog.get? name := by
  cases latest with
  | register schema =>
    cases htouched
    exact (get?_register catalog schema name).trans (if_neg fun heq => hne heq.symm)
  | unregister removed =>
    cases htouched
    exact (get?_unregister catalog touched name).trans (if_neg fun heq => hne heq.symm)
  | clear => cases htouched

/-- A change does not touch the order of the other names. -/
theorem filter_names_change (catalog : Catalog) {latest : Change} {touched : String}
    (htouched : latest.name? = some touched) :
    (catalog.change latest).names.filter (· ≠ touched) = catalog.names.filter (· ≠ touched) := by
  cases latest with
  | register schema =>
    cases htouched
    rw [change, names_register]
    split
    · rfl
    · simp
  | unregister removed =>
    cases htouched
    rw [change, remove, names_unregister, List.filter_filter]
    simp
  | clear => cases htouched

/-- A catalogue after any changes reflects their history. A change of one name changes neither the
schema of another one nor the order of the others. -/
theorem reflects_changes (past : Changes) :
    (after past).Reflects past ∧
      ∀ (latest : Change) (touched : String), latest.name? = some touched →
        (∀ name, name ≠ touched →
          (after (latest :: past)).get? name = (after past).get? name) ∧
        (after (latest :: past)).names.filter (· ≠ touched) =
          (after past).names.filter (· ≠ touched) := by
  refine ⟨?_, fun latest touched htouched => ⟨?_, ?_⟩⟩
  · have hcontains (name : String) : (after past).contains name = (past.schema? name).isSome :=
      congrArg Option.isSome (get?_after past name)
    exact {
      distinct := (after past).slots.nodup
      mem_names := mem_names_after past
      order := names_by_arrival past
      get? := get?_after past
      contains := hcontains
      schemas := (schemas_map_some _).trans (List.map_congr_left fun name _ => get?_after past name)
      names := map_name_schemas past
      size := (List.length_map _).symm
      remove := hcontains }
  · intro name hne
    exact get?_change_of_ne (after past) htouched hne
  · exact filter_names_change (after past) htouched

/-- A name that is registered again keeps its place, and one that was removed before does not. -/
example :
    (after [.register { name := "load" }, .register { name := "save" },
      .register { name := "load" }]).names = ["load", "save"] ∧
    (after [.register { name := "load" }, .unregister "load", .register { name := "save" },
      .register { name := "load" }]).names = ["save", "load"] := by decide

end Catalog

end SlashLine.Command
