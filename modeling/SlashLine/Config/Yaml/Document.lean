import SlashLine.Config.Yaml.Graph
import SlashLine.Config.Yaml.Meaning
import SlashLine.Value

/-!
# YAML documents

The value that the nodes of a document stand for. Mappings may take over the entries of others,
which their own entries override. Nodes are read from the outermost one inwards, the members of one
after those of all nodes that were met before; the first trouble counts.

* `read`: the value of a text.
-/

namespace SlashLine.Config.Yaml

/-- What a node stands for: a plain value, or nodes that stand for the members of a value. -/
inductive Shape where
  | scalar (s : Scalar)
  | list (items : List Nat)
  | pairs (items : List (Nat × Nat))
  | mapping (entries : List (Scalar × Nat))
  | set (members : List Scalar)

/-- What is known of the nodes. -/
structure Builder where
  nodes : Array Node
  /-- What the nodes stand for; for those with members at first an empty list. -/
  shapes : Array (Option Shape)
  /-- The nodes with members, in the order in which they were met. -/
  met : Array Nat := #[]

/-- Finding out what nodes stand for. -/
abbrev Build := StateT Builder (Except Trouble)

namespace Build

/-- A node. -/
def nodeAt (number : Nat) : Build Node := return ((← get).nodes[number]?).getD default

/-- Replaces a node. -/
def setNode (number : Nat) (node : Node) : Build Unit :=
  modify fun b => { b with nodes := b.nodes.setIfInBounds number node }

/-- Notes what a node stands for. -/
def setShape (number : Nat) (shape : Shape) : Build Unit :=
  modify fun b => { b with shapes := b.shapes.setIfInBounds number (some shape) }

/-! ## Texts -/

/-- The text of a node, and whether it is one of its own: a mapping may have one under an equals
sign. -/
def textOf : Nat → Nat → Build (Text.Letters × Bool)
  | 0, _ => throw .tooDeep
  | fuel + 1, number => do
    match (← nodeAt number).content with
    | .text letters => return (letters, true)
    | .sequence _ => throw .malformed
    | .mapping entries =>
      match ← entries.findM? fun (k, _) => do return (← nodeAt k).tag == .equals with
      | some (_, v) => return ((← textOf fuel v).1, false)
      | none => throw .malformed

/-- Finds out what a node stands for, unless that is known. The members of a node are left for
later. -/
def construct (number : Nat) : Build Unit := do
  match ((← get).shapes[number]?).getD none with
  | some _ => pure ()
  | none =>
    let tag := (← nodeAt number).tag
    if [.list, .mapping, .set, .ordered, .pairs].contains tag then
      setShape number (.list [])
      modify fun b => { b with met := b.met.push number }
    else if [.merge, .equals, .foreign].contains tag then throw .malformed
    else
      let (letters, isOwn) ← textOf ((← get).nodes.size + 1) number
      setShape number (.scalar (← tag.read (!isOwn) letters))

/-! ## Members -/

/-- The items of a sequence. -/
def itemsOf (number : Nat) : Build (List Nat) := do
  match (← nodeAt number).content with
  | .sequence items => return items
  | _ => throw .malformed

/-- The entries of a mapping. -/
def entriesOf (number : Nat) : Build (List (Nat × Nat)) := do
  match (← nodeAt number).content with
  | .mapping entries => return entries
  | _ => throw .malformed

/-- Replaces the entries of a mapping. -/
def setEntries (number : Nat) (entries : List (Nat × Nat)) : Build Unit := do
  setNode number { ← nodeAt number with content := .mapping entries }

mutual

/-- Takes over the entries that are merged into a mapping, which come before its own ones. An equals
sign as a key is a text. The argument bounds the number of merges. -/
def flatten (fuel : Nat) (number : Nat) : Build Unit := do
  let merged ← flattenFrom fuel number 0 [] (← entriesOf number)
  if !merged.isEmpty then setEntries number (merged ++ (← entriesOf number))
termination_by (fuel, 2, 0)

/-- The entries that are merged into a mapping by its entries from a place on, after those so
far. -/
def flattenFrom (fuel number place : Nat) (merged : List (Nat × Nat)) :
    List (Nat × Nat) → Build (List (Nat × Nat))
  | [] => return merged
  | (k, v) :: rest => do
    match (← nodeAt k).tag with
    | .merge =>
      match fuel with
      | 0 => throw .malformed
      | fuel + 1 =>
        setEntries number ((← entriesOf number).eraseIdx place)
        let more ← mergedBy fuel v
        flattenFrom fuel number place (merged ++ more) ((← entriesOf number).drop place)
    | .equals =>
      setNode k { ← nodeAt k with tag := .text }
      flattenFrom fuel number (place + 1) merged rest
    | _ => flattenFrom fuel number (place + 1) merged rest
termination_by entries => (fuel, 1, entries.length)

/-- The entries that a node merges into a mapping: those of a mapping, or of a list of mappings, the
first of which counts most. -/
def mergedBy (fuel number : Nat) : Build (List (Nat × Nat)) := do
  match (← nodeAt number).content with
  | .mapping _ =>
    flatten fuel number
    entriesOf number
  | .sequence items =>
    let parts ← items.mapM fun item => do
      flatten fuel item
      entriesOf item
    return parts.reverse.flatten
  | .text _ => throw .malformed
termination_by (fuel, 3, 0)

end

/-- The key that a node stands for: keys are plain. -/
def keyOf (number : Nat) : Build Scalar := do
  construct number
  match ((← get).shapes[number]?).getD none with
  | some (.scalar s) => return s
  | _ => throw .malformed

/-- The keys of a mapping, and the nodes of its values. -/
def keyed (number : Nat) : Build (List (Scalar × Nat)) := do
  let nodes := (← get).nodes
  let bound := nodes.foldl (fun n node => match node.content with
    | .mapping entries => n + entries.length
    | _ => n) 1
  flatten bound number
  (← entriesOf number).mapM fun (k, v) => do
    let key ← keyOf k
    construct v
    return (key, v)

/-- The only entry of a mapping. -/
def entryOf (number : Nat) : Build (Nat × Nat) := do
  match ← entriesOf number with
  | [(k, v)] =>
    construct k
    construct v
    return (k, v)
  | _ => throw .malformed

/-- Finds out what the members of a node stand for. -/
def fill (number : Nat) : Build Unit := do
  match (← nodeAt number).tag with
  | .list =>
    let items ← itemsOf number
    items.forM construct
    setShape number (.list items)
  | .mapping => setShape number (.mapping (← keyed number))
  | .set => setShape number (.set ((← keyed number).map Prod.fst))
  | _ => setShape number (.pairs (← (← itemsOf number).mapM entryOf))

/-- Finds out what the members of all nodes stand for, from a place among those that were met on. -/
def fillAll : Nat → Nat → Build Unit
  | 0, _ => pure ()
  | fuel + 1, place => do
    match (← get).met[place]? with
    | none => pure ()
    | some number =>
      fill number
      fillAll fuel (place + 1)

end Build

/-! ## Values -/

/-- The value of a node, given those of all nodes. A set is the list of its members. -/
def Shape.value (values : Array Value) : Shape → Value
  | scalar s => .scalar s
  | list items => .list (items.map fun i => (values[i]?).getD .null)
  | pairs items => .list (items.map fun (k, v) =>
      .list [(values[k]?).getD .null, (values[v]?).getD .null])
  | mapping entries => .mapping (entries.foldl (fun es (k, v) =>
      Value.setEntry k ((values[v]?).getD .null) es) [])
  | set members =>
    .list ((members.foldl (fun es k => Value.setEntry k .null es) []).map fun (k, _) => .scalar k)

/-- The values of nodes, in an order in which members come first. What a node holds of itself is
followed so many times. -/
def valuesOf (shapes : Array (Option Shape)) (order : List Nat) : Nat → Array Value → Array Value
  | 0, values => values
  | times + 1, values =>
    valuesOf shapes order times (order.foldl (fun values number =>
      match (shapes[number]?).getD none with
      | some shape => values.setIfInBounds number (shape.value values)
      | none => values) values)

/-- The value of a graph of nodes. One that holds itself is followed deeper than settings lie. -/
def Graph.value (graph : Graph) (root : Nat) : Except Trouble Value := do
  let size := graph.nodes.size
  let start : Builder := { nodes := graph.nodes, shapes := .replicate size none }
  let build : Build Unit := do
    Build.construct root
    Build.fillAll size 0
  let (_, b) ← build.run start
  let times := if graph.loops then 4 else 1
  let values := valuesOf b.shapes graph.ended.toList times (.replicate size .null)
  return (values[root]?).getD .null

/-- The value of a YAML text. -/
def read (text : String) : Except Trouble Value := do
  match ← Graph.ofTokens (tokens text) with
  | (none, _) => return .null
  | (some root, graph) => graph.value root

end SlashLine.Config.Yaml
