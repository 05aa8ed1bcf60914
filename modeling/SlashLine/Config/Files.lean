import SlashLine.Text.Path

/-!
# Files

The part of a file system that settings are looked for in: texts and directories at paths from the
root, the working directory and the home directory.

* `Files.lookup`: what a path, as it is typed, leads to.
* `Files.locate?`: what it leads to if it may not end in a slash after a file.
-/

namespace SlashLine.Config

/-- The steps from the root to a place. -/
abbrev Place := List String

/-- What a path leads to. -/
inductive Entry where
  | file (text : String)
  | directory
  deriving DecidableEq, Repr

/-- Some files, and where one is among them. -/
structure Files where
  /-- The texts of files; of the same place the last one counts. -/
  texts : List (Place × String)
  /-- Directories that may be empty. -/
  directories : List Place
  current : Place
  home : Place

namespace Files

/-- There is a directory at a place: one that is known, or one on the way to something. -/
def isDirectory (files : Files) (place : Place) : Bool :=
  (files.current :: files.home :: files.directories).any place.isPrefixOf ||
    files.texts.any fun (file, _) => place.isPrefixOf file.dropLast

/-- What there is at a place. -/
def entry? (files : Files) (place : Place) : Option Entry :=
  match files.texts.reverse.find? (·.1 == place) with
  | some (_, text) => some (.file text)
  | none => if files.isDirectory place then some .directory else none

/-- Why a path leads nowhere. -/
inductive Dead where
  | missing
  /-- A name or the whole path has more bytes than any. -/
  | tooLong
  deriving DecidableEq, Repr

/-- The most bytes of a name. -/
def longestName : Nat := 255

/-- The most bytes of a path. -/
def longestPath : Nat := 4095

/-- The place that steps lead to. Every step but the last one has to lead to a directory, and names
are looked up in directories only. -/
def walk (files : Files) (start : Place) : List String → Except Dead Place
  | [] => .ok start
  | step :: rest =>
    if !files.isDirectory start then .error .missing
    else if longestName < step.utf8ByteSize then .error .tooLong
    else walk files (if step == ".." then start.dropLast else start ++ [step]) rest

/-- The place that a path leads to. -/
def placeOf (files : Files) (path : String) : Except Dead Place :=
  let cs := path.toList
  let plain := String.ofList (Text.normalizePath cs)
  if longestPath < plain.utf8ByteSize then .error .tooLong
  else files.walk (if (Text.pathRoot cs).isEmpty then files.current else [])
    ((Text.pathSteps cs).map String.ofList)

/-- What a path leads to in its plain form. -/
def lookup (files : Files) (path : String) : Except Dead Entry := do
  match files.entry? (← files.placeOf path) with
  | some entry => return entry
  | none => throw .missing

/-- What a path leads to as it stands: after a slash or a point at its end, only a directory. -/
def locate? (files : Files) (path : String) : Option Entry :=
  if path.isEmpty || longestPath < path.utf8ByteSize then none
  else
    let last := (Text.pathParts path.toList).getLast?
    let needsDirectory := last == some [] || last == some ['.']
    (files.lookup path).toOption.filter fun e => !needsDirectory || e == .directory

/-! ## Adding files -/

/-- The places that steps lead through, the last one included. -/
def waypoints (start : Place) : List String → List Place
  | [] => [start]
  | step :: rest =>
    start :: waypoints (if step == ".." then start.dropLast else start ++ [step]) rest

/-- The places that a path leads through. -/
def waypointsOf (files : Files) (path : String) : List Place :=
  let cs := path.toList
  waypoints (if (Text.pathRoot cs).isEmpty then files.current else [])
    ((Text.pathSteps cs).map String.ofList)

/-- The files with a text at the end of a path, and directories on the way. -/
def withText (files : Files) (path text : String) : Files :=
  let places := files.waypointsOf path
  match places.getLast? with
  | none => files
  | some place => { files with
      texts := files.texts ++ [(place, text)]
      directories := files.directories ++ places.dropLast }

/-- The files with directories all along a path. -/
def withDirectory (files : Files) (path : String) : Files :=
  { files with directories := files.directories ++ files.waypointsOf path }

end Files

end SlashLine.Config
