import SlashLine.Value

/-!
# TOML tables

What the parts of a TOML text say one after the other is put together to nested tables. A table
that one part of the text has defined cannot be defined again by another.

* `Table.insert?`: a table with a value under names.
* `Table.declare?`, `Table.append?`: a table after a heading.
-/

namespace SlashLine.Config.Toml

/-- What a name in a table stands for. -/
inductive Branch where
  | value (v : Value)
  /-- A table, and the section of the text that defined it: by its heading, or by names with
  points. A table that is only named on the way to another one is not defined yet. -/
  | table (definedBy : Option Nat) (entries : List (String × Branch))
  /-- A list of tables: those that are finished, and the last one. -/
  | tables (finished : List Value) (last : List (String × Branch))

/-- The names in a table. -/
abbrev Table := List (String × Branch)

namespace Branch

instance : Inhabited Branch := ⟨table none []⟩

mutual

/-- The value of a branch. -/
def toValue : Branch → Value
  | value v => v
  | table _ entries => .mapping (entriesValue entries)
  | tables finished last => .list (finished ++ [.mapping (entriesValue last)])

/-- The entries of a table as values. -/
def entriesValue : List (String × Branch) → List (Scalar × Value)
  | [] => []
  | (name, branch) :: rest => (.text name, toValue branch) :: entriesValue rest

end

end Branch

namespace Table

/-- The value of a table. -/
def toValue (t : Table) : Value := .mapping (Branch.entriesValue t)

/-- What a name stands for. -/
def find? (name : String) : Table → Option Branch
  | [] => none
  | (n, b) :: rest => if n = name then some b else find? name rest

/-- A table with another meaning of a name: in its place if it is there, at the end if not. -/
def put (name : String) (b : Branch) : Table → Table
  | [] => [(name, b)]
  | (n, b') :: rest => if n = name then (n, b) :: rest else (n, b') :: put name b rest

theorem find?_put (name name' : String) (b : Branch) (t : Table) :
    find? name' (put name b t) = if name = name' then some b else find? name' t := by
  induction t with
  | nil => simp [put, find?]
  | cons p rest ih => grind [put, find?]

/-- How a table is reached: by a heading, or by the names of a value in a section. Headings lead
on into the last table of a list; the names of a value lead neither there nor into a table that
another section has defined. -/
inductive Way where
  | heading
  | names (part : Nat)
  deriving DecidableEq, Repr

namespace Way

/-- The section that defines the tables on the way. -/
def definer : Way → Option Nat
  | heading => none
  | names s => some s

/-- A table that is defined like this can be passed. -/
def passes (way : Way) (definedBy : Option Nat) : Bool :=
  match way, definedBy with
  | names s, some t => s == t
  | _, _ => true

end Way

/-- Changes the table at the end of names, which are added where they are missing. -/
def alter (way : Way) (change : Table → Option Table) : List String → Table → Option Table
  | [], t => change t
  | name :: names, t =>
    match find? name t with
    | none => (alter way change names []).map fun inner =>
        put name (.table way.definer inner) t
    | some (.table definedBy inner) =>
      if way.passes definedBy then
        (alter way change names inner).map fun inner =>
          put name (.table (definedBy.or way.definer) inner) t
      else none
    | some (.tables finished last) =>
      if way = .heading then
        (alter way change names last).map fun last => put name (.tables finished last) t
      else none
    | some (.value _) => none

/-- Changes the meaning of the last of some names, in the table that the names before it lead
to. -/
def alterLast (way : Way) (change : Option Branch → Option Branch) (path : List String)
    (t : Table) : Option Table :=
  match path.getLast? with
  | none => none
  | some name =>
    alter way (fun t => (change (find? name t)).map fun b => put name b t) path.dropLast t

/-- A table with a value under names, in a section with a heading. The last name has to be new. -/
def insert? (heading : List String) (part : Nat) (path : List String) (v : Value)
    (t : Table) : Option Table :=
  alter .heading
    (alterLast (.names part) (fun
      | none => some (.value v)
      | some _ => none) path)
    heading t

/-- A table after the heading of a section: the table that it names must not be defined yet. -/
def declare? (part : Nat) (path : List String) (t : Table) : Option Table :=
  alterLast .heading (fun
    | none => some (.table (some part) [])
    | some (.table none inner) => some (.table (some part) inner)
    | _ => none) path t

/-- A table after a heading that adds a table to a list. -/
def append? (path : List String) (t : Table) : Option Table :=
  alterLast .heading (fun
    | none => some (.tables [] [])
    | some (.tables finished last) => some (.tables (finished ++ [toValue last]) [])
    | _ => none) path t

end Table

end SlashLine.Config.Toml
