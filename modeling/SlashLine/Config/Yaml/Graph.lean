import SlashLine.Config.Yaml.Scan
import SlashLine.Config.Yaml.Tag

/-!
# The nodes of a YAML document

A document is a graph: a node may be named and referred to later, even from within itself. Nodes are
known by their numbers, in the order in which they start.

* `Graph.ofTokens`: the nodes that signs describe.
-/

namespace SlashLine.Config.Yaml

/-- What a node holds. -/
inductive Content where
  | text (letters : Text.Letters)
  | sequence (items : List Nat)
  | mapping (entries : List (Nat × Nat))

/-- A node. -/
structure Node where
  tag : Tag
  content : Content

instance : Inhabited Node := ⟨⟨.null, .text []⟩⟩

/-- The nodes of a document. -/
structure Graph where
  nodes : Array Node := #[]
  /-- The nodes in the order in which they end: members come before what they are members of. -/
  ended : Array Nat := #[]
  /-- Some node is referred to from within itself. -/
  loops : Bool := false

/-- What is left to read, and the nodes so far. -/
structure Reader where
  tokens : List Token
  graph : Graph := {}
  /-- The nodes that have been named. -/
  names : List (String × Nat) := []
  /-- The handles of tags, and what they are short for. -/
  handles : List (String × String) := []

/-- Reading of nodes. -/
abbrev Reading := StateT Reader (Except Trouble)

namespace Reading

/-! ## Signs -/

/-- The next sign. -/
def peek : Reading Token := do
  match (← get).tokens with
  | [] => throw .malformed
  | .broken t :: _ => throw t
  | t :: _ => return t

/-- Past one sign. -/
def skip : Reading Unit := modify fun r => { r with tokens := r.tokens.drop 1 }

/-- The next sign is one of these. -/
def atAny (ts : List Token) : Reading Bool := return ts.contains (← peek)

/-- Past a sign, if it is there. -/
def accept (t : Token) : Reading Bool := do
  if (← peek) = t then
    skip
    return true
  else return false

/-- Past a sign that has to be there. -/
def expect (t : Token) : Reading Unit := do
  if !(← accept t) then throw .malformed

/-! ## Names and tags -/

/-- The name of a node, if it has one. -/
def anchor? : Reading (Option String) := do
  match ← peek with
  | .anchor name =>
    skip
    return some name
  | _ => return none

/-- The tag of a node, if it has one. -/
def tag? : Reading (Option WrittenTag) := do
  match ← peek with
  | .tag tag =>
    skip
    return some tag
  | _ => return none

/-- The full form of a written tag. Its handle has to be known. -/
def fullTag (tag : WrittenTag) : Reading String := do
  match tag.handle with
  | none => return tag.suffix
  | some handle =>
    match (← get).handles.find? (·.1 == handle) with
    | some (_, full) => return full ++ tag.suffix
    | none => throw .malformed

/-- The name and the tag of a node, in either order. A tag that is an exclamation mark alone leaves
open what the node is. -/
def properties : Reading (Option String × Option String) := do
  let name ← anchor?
  let tag ← tag?
  let name ← if name.isNone && tag.isSome then anchor? else pure name
  return (name, ← tag.mapM fullTag)

/-! ## Nodes -/

/-- A new node, which may be named. A name can be given once. -/
def add (name : Option String) (node : Node) : Reading Nat := do
  let names := (← get).names
  if name.any fun n => names.any (·.1 == n) then throw .malformed
  let number := (← get).graph.nodes.size
  modify fun r => { r with
    graph := { r.graph with nodes := r.graph.nodes.push node }
    names := (name.map fun n => (n, number)).toList ++ r.names }
  return number

/-- The end of a node. -/
def finish (number : Nat) : Reading Unit :=
  modify fun r => { r with graph := { r.graph with ended := r.graph.ended.push number } }

/-- A node with a text. -/
def addText (name : Option String) (tag : Tag) (letters : Text.Letters) : Reading Nat := do
  let number ← add name ⟨tag, .text letters⟩
  finish number
  return number

/-- A node that is left out. -/
def addMissing : Reading Nat := addText none .null []

/-- A node with members, which are read after it has been named. -/
def addAround (name : Option String) (tag : Tag) (members : Reading Content) : Reading Nat := do
  let number ← add name ⟨tag, .sequence []⟩
  let content ← members
  modify fun r => { r with
    graph := { r.graph with nodes := r.graph.nodes.setIfInBounds number ⟨tag, content⟩ } }
  finish number
  return number

/-- The node that a name refers to. -/
def named (name : String) : Reading Nat := do
  match (← get).names.find? (·.1 == name) with
  | none => throw .malformed
  | some (_, number) =>
    modify fun r => { r with
      graph := { r.graph with loops := r.graph.loops || !r.graph.ended.contains number } }
    return number

/-- What is left open, a tag decides; without one, the kind of the node does. -/
def tagOr (tag : Option String) (kind : Tag) : Tag :=
  match tag with
  | none => kind
  | some t => if t == "!" then kind else .ofName t

/-- The tag of a text: that of a plain one depends on its form, also after an exclamation mark. -/
def tagOfText (tag : Option String) (plain : Bool) (letters : Text.Letters) : Tag :=
  tagOr tag (if plain || tag.isSome then .ofPlain letters.chars else .text)

mutual

/-- A node. Blocks are allowed or not; so is a sequence that is no further indented than its key.
The first argument bounds the work, the second one how deep nodes still may lie in each other. -/
def node : Nat → Nat → (block indentless : Bool) → Reading Nat
  | 0, _, _, _ => throw .malformed
  | fuel + 1, depth, block, indentless => do
    match ← peek with
    | .alias name =>
      skip
      named name
    | _ =>
      let (name, tag) ← properties
      let around (kind : Tag) (members : Nat → Reading Content) : Reading Nat :=
        if depth = 0 then throw .tooDeep else addAround name (tagOr tag kind) (members (depth - 1))
      match ← peek with
      | .text plain letters =>
        skip
        addText name (tagOfText tag plain letters) letters
      | .flowSequenceStart =>
        skip
        around .list fun depth => do return .sequence (← flowItems fuel depth true)
      | .flowMappingStart =>
        skip
        around .mapping fun depth => do return .mapping (← flowPairs fuel depth true)
      | t =>
        if indentless && t = .blockEntry then
          around .list fun depth => do return .sequence (← blockItems fuel depth true)
        else if block && t = .sequenceStart then
          skip
          around .list fun depth => do
            let items ← blockItems fuel depth false
            expect .blockEnd
            return .sequence items
        else if block && t = .mappingStart then
          skip
          around .mapping fun depth => do
            let pairs ← blockPairs fuel depth
            expect .blockEnd
            return .mapping pairs
        else if name.isSome || tag.isSome then addText name (tagOfText tag true []) []
        else throw .malformed

/-- The members of a sequence, each after a dash. -/
def blockItems : Nat → Nat → (indentless : Bool) → Reading (List Nat)
  | 0, _, _ => throw .malformed
  | fuel + 1, depth, indentless => do
    if ← accept .blockEntry then
      let ends := if indentless then [.blockEntry, .key, .value, .blockEnd]
        else [Token.blockEntry, .blockEnd]
      let item ← if ← atAny ends then addMissing else node fuel depth true false
      return item :: (← blockItems fuel depth indentless)
    else return []

/-- The entries of a mapping, by indentation. Each starts with a key; its value may be left out. -/
def blockPairs : Nat → Nat → Reading (List (Nat × Nat))
  | 0, _ => throw .malformed
  | fuel + 1, depth => do
    if ← accept .key then
      let k ← blockPart fuel depth
      let v ← if ← accept .value then blockPart fuel depth else addMissing
      return (k, v) :: (← blockPairs fuel depth)
    else return []

/-- A key or a value of a mapping, by indentation, if there is one. -/
def blockPart : Nat → Nat → Reading Nat
  | 0, _ => throw .malformed
  | fuel + 1, depth => do
    if ← atAny [.key, .value, .blockEnd] then addMissing else node fuel depth true true

/-- The members of a sequence between brackets. A key among them makes a mapping of one entry. -/
def flowItems : Nat → Nat → (first : Bool) → Reading (List Nat)
  | 0, _, _ => throw .malformed
  | fuel + 1, depth, first => do
    if ← accept .flowSequenceEnd then return []
    if !first then expect .flowEntry
    if ← accept .flowSequenceEnd then return []
    let item ← if ← accept .key then
        if depth = 0 then throw .tooDeep
        addAround none .mapping do
          let k ← flowPart fuel (depth - 1) [.value, .flowEntry, .flowSequenceEnd]
          let v ← flowValue fuel (depth - 1) .flowSequenceEnd
          return .mapping [(k, v)]
      else node fuel depth false false
    return item :: (← flowItems fuel depth false)

/-- A key or a value between brackets; none is there if one of these signs is next. -/
def flowPart : Nat → Nat → List Token → Reading Nat
  | 0, _, _ => throw .malformed
  | fuel + 1, depth, ends => do
    if ← atAny ends then addMissing else node fuel depth false false

/-- The value after a colon between brackets, if there is one. -/
def flowValue : Nat → Nat → Token → Reading Nat
  | 0, _, _ => throw .malformed
  | fuel + 1, depth, close => do
    if ← accept .value then flowPart fuel depth [.flowEntry, close] else addMissing

/-- The entries of a mapping between braces. -/
def flowPairs : Nat → Nat → (first : Bool) → Reading (List (Nat × Nat))
  | 0, _, _ => throw .malformed
  | fuel + 1, depth, first => do
    if ← accept .flowMappingEnd then return []
    if !first then expect .flowEntry
    if ← accept .flowMappingEnd then return []
    let pair ← if ← accept .key then do
        let k ← flowPart fuel depth [.value, .flowEntry, .flowMappingEnd]
        let v ← flowValue fuel depth .flowMappingEnd
        pure (k, v)
      else do
        let k ← node fuel depth false false
        let _ ← peek
        pure (k, ← addMissing)
    return pair :: (← flowPairs fuel depth false)

end

/-! ## The document -/

/-- The handles that are known without directives. -/
def usualHandles : List (String × String) := [("!", "!"), ("!!", Tag.core)]

/-- Past directives. A version can be given once, and so can each handle. -/
def directives : Nat → (versionGiven : Bool) → Reading Unit
  | 0, _ => throw .malformed
  | fuel + 1, versionGiven => do
    match ← peek with
    | .version major =>
      if versionGiven || major ≠ 1 then throw .malformed
      skip
      directives fuel true
    | .handle name full =>
      if (← get).handles.any (·.1 == name) then throw .malformed
      modify fun r => { r with handles := (name, full) :: r.handles }
      skip
      directives fuel versionGiven
    | .directive =>
      skip
      directives fuel versionGiven
    | _ => modify fun r => { r with handles := r.handles ++ usualHandles }

/-- How deep nodes may lie in each other. -/
def deepest : Nat := 487

/-- The node of a document, which its marker may stand before. -/
def root : Reading Nat := do
  let fuel := 4 * (← get).tokens.length + 4
  let first ← peek
  if first.isDirective || first = .documentStart then
    directives fuel false
    expect .documentStart
    let next ← peek
    if next.isDirective || [.documentStart, .documentEnd, .finish].contains next then addMissing
    else node fuel deepest true false
  else
    modify fun r => { r with handles := usualHandles }
    node fuel deepest true false

/-- Past the markers at the end of a document. -/
def documentEnds : Nat → Reading Unit
  | 0 => throw .malformed
  | fuel + 1 => do
    if ← accept .documentEnd then documentEnds fuel

/-- The only document; none if there is none. -/
def document : Reading (Option Nat) := do
  if ← accept .finish then return none
  let number ← root
  documentEnds ((← get).tokens.length + 1)
  expect .finish
  return some number

end Reading

/-- The nodes that signs describe, and the one that all others belong to, if there is one. -/
def Graph.ofTokens (tokens : List Token) : Except Trouble (Option Nat × Graph) :=
  (Reading.document.run { tokens }).map fun (root, r) => (root, r.graph)

end SlashLine.Config.Yaml
