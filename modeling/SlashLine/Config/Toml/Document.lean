import SlashLine.Config.Toml.Number
import SlashLine.Config.Toml.Table
import SlashLine.Config.Toml.Text
import SlashLine.Text.Search

/-!
# TOML texts

A TOML text is a list of lines: names with values, and the headings of sections. It stands for one
table, to which each line adds.

* `Statement.take`: a line.
* `read`: the table that a text stands for.
-/

namespace SlashLine.Config.Toml

/-! ## Values -/

/-- A value on one line that is no text, and what follows. -/
def takePlain (cs : List Char) : Except Trouble (Value × List Char) :=
  match cs with
  | 't' :: 'r' :: 'u' :: 'e' :: rest => .ok (.scalar (.bool true), rest)
  | 'f' :: 'a' :: 'l' :: 's' :: 'e' :: rest => .ok (.scalar (.bool false), rest)
  | cs =>
    match takeMoment? cs with
    | some (some m, rest) => .ok (.scalar m, rest)
    | some (none, _) => .error .malformed
    | none => (takeNumber cs).map fun (s, rest) => (.scalar s, rest)

/-- How deep values may lie in each other, where a list counts two and a table three. -/
def deepest : Nat := 980

mutual

/-- A value, and what follows. The first argument bounds the work, the second one how deep values
still may lie in each other. -/
def takeValue : Nat → Nat → List Char → Except Trouble (Value × List Char)
  | 0, _, _ => .error .malformed
  | fuel + 1, depth, cs =>
    match cs with
    | '[' :: rest =>
      if depth < 2 then .error .tooDeep
      else (takeItems fuel (depth - 2) rest).map fun (items, rest) => (.list items, rest)
    | '{' :: rest =>
      if depth < 3 then .error .tooDeep
      else match skipSpace rest with
        | '}' :: rest => .ok (.mapping [], rest)
        | rest => (takePairs fuel (depth - 3) [] rest).map fun (t, rest) => (t.toValue, rest)
    | '"' :: _ =>
      (orMalformed (takeText? fuel cs)).map fun (s, rest) => (.text (String.ofList s), rest)
    | '\'' :: _ =>
      (orMalformed (takeText? fuel cs)).map fun (s, rest) => (.text (String.ofList s), rest)
    | cs => takePlain cs

/-- The members of a list up to its closing bracket, and what follows. A comma may stand after the
last one. -/
def takeItems : Nat → Nat → List Char → Except Trouble (List Value × List Char)
  | 0, _, _ => .error .malformed
  | fuel + 1, depth, cs => do
    match ← orMalformed (skipLines? fuel cs) with
    | ']' :: rest => return ([], rest)
    | cs =>
      let (v, rest) ← takeValue fuel depth cs
      match ← orMalformed (skipLines? fuel rest) with
      | ']' :: rest => return ([v], rest)
      | ',' :: rest =>
        let (vs, rest) ← takeItems fuel depth rest
        return (v :: vs, rest)
      | _ => throw .malformed

/-- Names, an equals sign and a value, and what follows. -/
def takePair : Nat → Nat → List Char → Except Trouble ((List String × Value) × List Char)
  | 0, _, _ => .error .malformed
  | fuel + 1, depth, cs => do
    let (path, rest) ← orMalformed (takePath? fuel cs)
    match rest with
    | '=' :: rest =>
      let (v, rest) ← takeValue fuel depth (skipSpace rest)
      return ((path, v), rest)
    | _ => throw .malformed

/-- A table up to its closing brace, after the names read so far, and what follows. -/
def takePairs : Nat → Nat → Table → List Char → Except Trouble (Table × List Char)
  | 0, _, _, _ => .error .malformed
  | fuel + 1, depth, done, cs => do
    let ((path, v), rest) ← takePair fuel depth cs
    let done ← orMalformed (done.insert? [] 0 path v)
    match skipSpace rest with
    | '}' :: rest => return (done, rest)
    | ',' :: rest => takePairs fuel depth done (skipSpace rest)
    | _ => throw .malformed

end

/-! ## Lines -/

/-- A line. -/
inductive Statement where
  | pair (path : List String) (v : Value)
  /-- The heading of a table. -/
  | table (path : List String)
  /-- The heading of a table that is added to a list. -/
  | tables (path : List String)

/-- A statement, if the line is not empty, and what follows it on the line. The first argument
bounds the number of characters. -/
def Statement.take (fuel : Nat) (cs : List Char) : Except Trouble (Option Statement × List Char) :=
  match cs with
  | '[' :: '[' :: rest => do
    match ← orMalformed (takePath? fuel (skipSpace rest)) with
    | (path, ']' :: ']' :: rest) => return (some (.tables path), rest)
    | _ => throw .malformed
  | '[' :: rest => do
    match ← orMalformed (takePath? fuel (skipSpace rest)) with
    | (path, ']' :: rest) => return (some (.table path), rest)
    | _ => throw .malformed
  | c :: rest =>
    if startsName c then do
      let ((path, v), rest) ← takePair (2 * fuel + 2) deepest (c :: rest)
      return (some (.pair path v), rest)
    else .ok (none, cs)
  | [] => .ok (none, [])

/-! ## The table of a text -/

/-- What the lines so far stand for: the table, the heading of the section, and the number of
sections. -/
structure Reading where
  table : Table := []
  heading : List String := []
  part : Nat := 0

namespace Reading

/-- One statement more. -/
def step? (r : Reading) : Statement → Option Reading
  | .pair path v => (r.table.insert? r.heading r.part path v).map fun table => { r with table }
  | .table path => (r.table.declare? (r.part + 1) path).map fun table =>
      { table, heading := path, part := r.part + 1 }
  | .tables path => (r.table.append? path).map fun table =>
      { table, heading := path, part := r.part + 1 }

/-- The lines of a text more. The first argument bounds the number of characters. -/
def lines : Nat → Reading → List Char → Except Trouble Reading
  | 0, _, _ => .error .malformed
  | fuel + 1, r, cs => do
    let (statement, rest) ← Statement.take (fuel + 1) (skipSpace cs)
    let r ← match statement with
      | some s => orMalformed (r.step? s)
      | none => pure r
    match ← orMalformed (skipComment? (skipSpace rest)) with
    | [] => return r
    | '\n' :: rest => lines fuel r rest
    | _ => throw .malformed

end Reading

/-- The table that a text stands for. -/
def read (text : String) : Except Trouble Value := do
  let cs := Text.replaceAll ['\r', '\n'] ['\n'] text.toList
  let r ← Reading.lines (cs.length + 1) {} cs
  return r.table.toValue

end SlashLine.Config.Toml
