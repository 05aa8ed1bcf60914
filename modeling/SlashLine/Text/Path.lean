/-!
# Paths

The steps of a path between its slashes, and its plain form: without doubled slashes and without
steps that lead nowhere. Steps that lead back are kept.
-/

namespace SlashLine.Text

/-- The parts of a path between slashes. -/
def pathParts : List Char → List (List Char)
  | [] => [[]]
  | c :: cs =>
    if c == '/' then [] :: pathParts cs
    else match pathParts cs with
      | [] => [[c]]
      | part :: parts => (c :: part) :: parts

/-- The parts of a path that lead somewhere. -/
def pathSteps (cs : List Char) : List (List Char) :=
  (pathParts cs).filter fun part => !part.isEmpty && part != ['.']

/-- The root a path starts from: none, a slash, or the two slashes of a path that starts with
exactly two. -/
def pathRoot : List Char → List Char
  | '/' :: '/' :: '/' :: _ => ['/']
  | '/' :: '/' :: _ => ['/', '/']
  | '/' :: _ => ['/']
  | _ => []

/-- The plain form of a path. -/
def normalizePath (cs : List Char) : List Char :=
  match pathRoot cs ++ ['/'].intercalate (pathSteps cs) with
  | [] => ['.']
  | path => path

/-- The last point of a name and what follows it: nothing if the point starts or ends the name. -/
def nameSuffix (name : List Char) : List Char :=
  let reversed := name.reverse
  let after := reversed.takeWhile (· != '.')
  let before := reversed.drop (after.length + 1)
  if before.isEmpty || after.isEmpty then [] else '.' :: after.reverse

end SlashLine.Text
