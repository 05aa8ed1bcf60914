import SlashLine.Config.Environment
import SlashLine.Config.Files
import SlashLine.Config.Json
import SlashLine.Config.Merge
import SlashLine.Config.Toml.Document
import SlashLine.Config.Yaml.Document

/-!
# Loading settings

Settings come from the environment, a configuration file and the defaults, in this order. The file
is the one that is named, or the first one found in the usual places.

* `find`: the file in the usual places.
* `loadFile`: the contents of a file.
* `settingsOf`: the settings in the contents of a file and in the environment.
* `load`: all together.
-/

namespace SlashLine.Config

/-! ## Formats -/

/-- The formats of configuration files. -/
inductive Format where
  | yaml
  | toml
  | json
  deriving DecidableEq, Repr

namespace Format

/-- The suffixes of file names, in the order in which files are looked for. -/
def suffixes : List (String × Format) :=
  [(".yaml", yaml), (".yml", yaml), (".toml", toml), (".json", json)]

/-- The format of a file with a suffix, in any letter case. -/
def ofSuffix? (suffix : String) : Option Format :=
  (suffixes.find? (·.1 == Text.lower suffix)).map Prod.snd

end Format

/-- Why no settings were loaded. -/
inductive Failure where
  /-- The named file does not exist. -/
  | noSuchFile (path : String)
  /-- There is nothing to read at a path. -/
  | nothingAt (path : String)
  /-- The path, or a name in it, is longer than any path or name. -/
  | pathTooLong
  | isDirectory
  | unsupported (suffix : String)
  | unreadable (format : Format) (trouble : Trouble)
  /-- The file holds a list. -/
  | isList
  /-- The file holds one value. -/
  | isScalar
  /-- The key of a setting is no text. -/
  | keyIsNoText
  | unfit (problems : List Problem)
  deriving DecidableEq, Repr

namespace Failure

/-- What is said about a failure. -/
def message : Failure → String
  | noSuchFile path => "Specified config file not found: " ++ path
  | nothingAt path => "Configuration file not found: " ++ path
  | pathTooLong => "File name too long"
  | isDirectory => "The configuration file is a directory"
  | unsupported suffix => "Unsupported config file format: " ++ suffix
  | unreadable _ trouble => trouble.message
  | isList => "The configuration file holds a list"
  | isScalar => "The configuration file holds no settings"
  | keyIsNoText => "The names of settings must be texts"
  | unfit problems => Text.joined "\n" (problems.map fun p =>
      Text.joined "." p.location ++ ": " ++ (p.misfit.message?.getD p.misfit.kind))

end Failure

/-! ## Files -/

/-- A text with plain line breaks. -/
def plainBreaks (text : String) : String :=
  String.ofList (Text.replaceAll ['\r'] ['\n']
    (Text.replaceAll ['\r', '\n'] ['\n'] text.toList))

/-- Contents that say nothing hold no settings. -/
def orNothing (v : Value) : Value := if v.isEmptyLike then .mapping [] else v

/-- The contents of a text in a format. -/
def readText (format : Format) (text : String) : Except Failure Value :=
  let contents := match format with
    | .toml => Toml.read text
    | .json => (Json.read (plainBreaks text)).map orNothing
    | .yaml => (Yaml.read (plainBreaks text)).map orNothing
  contents.mapError (.unreadable format)

/-- The plain form of a path. -/
def plainPath (path : String) : String := String.ofList (Text.normalizePath path.toList)

/-- The suffix of the last step of a path. -/
def suffixOf (path : String) : String :=
  String.ofList (Text.nameSuffix ((Text.pathSteps path.toList).getLast?.getD []))

/-- The contents of what a path with a suffix leads to. -/
def readEntry (suffix : String) : Entry → Except Failure Value
  | .directory => .error .isDirectory
  | .file text =>
    match Format.ofSuffix? suffix with
    | some format => readText format text
    | none => .error (.unsupported suffix)

/-- The contents of a file. -/
def loadFile (files : Files) (path : String) : Except Failure Value :=
  match files.lookup path with
  | .error .missing => .error (.nothingAt (plainPath path))
  | .error .tooLong => .error .pathTooLong
  | .ok entry => readEntry (suffixOf path) entry

/-- The places where a configuration file is looked for, each with its suffix. -/
def usualPlaces (files : Files) : List (Place × String) :=
  [(files.current, "config"), (files.current, ".chat-commands"),
   (files.home ++ [".config", "chat-commands"], "config")].flatMap fun (directory, stem) =>
    Format.suffixes.map fun (suffix, _) => (directory ++ [stem ++ suffix], suffix)

/-- The first of the usual places where there is something. -/
def find (files : Files) : Option (Place × String) :=
  (usualPlaces files).find? fun (place, _) => (files.entry? place).isSome

/-! ## Settings -/

/-- The entries of a section, whose keys have to be texts. -/
def sectionEntries (name : String) (entries : Entries) : Except Failure Entries :=
  match Value.lookup? (.text name) entries with
  | some (.mapping inner) =>
    if inner.all fun (key, _) => key matches .text _ | .unpaired _ then .ok inner
    else .error .keyIsNoText
  | _ => .ok []

/-- The entries of the user interface, where a text stands for a truth value. -/
def uiEntries (entries : Entries) : Entries :=
  match Value.lookup? (.text "use_colors") entries with
  | some v => Value.setEntry (.text "use_colors") (textAsBool v) entries
  | none => entries

/-- The settings in merged entries: the first section with a problem decides. -/
def settingsIn (entries : Entries) : Except Failure AppSettings := do
  let router ← (RouterSettings.read (← sectionEntries "router" entries)).mapError .unfit
  let recovery ← (RecoverySettings.read (← sectionEntries "recovery" entries)).mapError .unfit
  let ui ← (UiSettings.read (uiEntries (← sectionEntries "ui" entries))).mapError .unfit
  let logLevel ← (AppSettings.readLogLevel entries).mapError .unfit
  return { router, recovery, ui, logLevel }

/-- The settings in the contents of a file and in the environment, which counts more. -/
def settingsOf (contents : Value) (env : Environment) : Except Failure AppSettings :=
  match contents with
  | .mapping entries => settingsIn (merge entries env.entries)
  | .list _ => .error .isList
  | .scalar _ => .error .isScalar

/-- The contents of the file that is named, or found, or none. -/
def contentsOf (files : Files) (path : Option String) : Except Failure Value :=
  match path.filter (!·.isEmpty) with
  | some path =>
    match files.lookup path with
    | .error .missing => .error (.noSuchFile (plainPath path))
    | .error .tooLong => .error .pathTooLong
    | .ok entry => readEntry (suffixOf path) entry
  | none =>
    match find files with
    | none => .ok (.mapping [])
    | some (place, suffix) =>
      match files.entry? place with
      | some entry => readEntry suffix entry
      | none => .ok (.mapping [])

/-- The settings from all sources. -/
def load (files : Files) (path : Option String) (env : Environment) :
    Except Failure AppSettings := do
  settingsOf (← contentsOf files path) env

/-- Outcomes of loading are equal if they are alike and hold equal settings or failures. -/
instance decidableEqOutcome : DecidableEq (Except Failure AppSettings)
  | .ok settings, .ok settings' =>
    decidable_of_iff (settings = settings') ⟨congrArg Except.ok, Except.ok.inj⟩
  | .error failure, .error failure' =>
    decidable_of_iff (failure = failure') ⟨congrArg Except.error, Except.error.inj⟩
  | .ok _, .error _ => isFalse nofun
  | .error _, .ok _ => isFalse nofun

end SlashLine.Config
