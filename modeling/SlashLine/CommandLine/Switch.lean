/-!
# Switches

The switches of a command line, such as `--config FILE` and `-c FILE`, apart from its other words.

* `readSwitches`: the switches and the other words.
-/

namespace SlashLine.CommandLine

/-- A switch: its long name, its letter if it has one, and whether a value follows it. -/
structure Switch where
  long : String
  letter : Option Char := none
  takesValue : Bool := false
  deriving DecidableEq, Repr

/-- How a command line can be wrong. -/
inductive Misuse where
  | unknownSwitch (name : String)
  | valueMissing (name : String)
  | valueNotTaken (name : String)
  | badValue (name value : String)
  | wordMissing (name : String)
  | tooManyWords (words : List String)
  | commandMissing
  | unknownCommand (name : String)
  deriving DecidableEq, Repr

namespace Misuse

/-- What is said about a wrong command line. -/
def message : Misuse → String
  | unknownSwitch name => "No such option: " ++ name
  | valueMissing name => "Option '" ++ name ++ "' requires an argument."
  | valueNotTaken name => "Option '" ++ name ++ "' does not take a value."
  | badValue name value => "Invalid value for '" ++ name ++ "': '" ++ value ++ "'"
  | wordMissing name => "Missing argument '" ++ name ++ "'."
  | tooManyWords words => "Got unexpected extra arguments: " ++ " ".intercalate words
  | commandMissing => "Missing command."
  | unknownCommand name => "No such command '" ++ name ++ "'."

end Misuse

/-- The switches that are given, by their long names, with the values that are taken. -/
abbrev Given := List (String × Option String)

namespace Given

/-- The switch is given. -/
def has (given : Given) (name : String) : Bool := given.any (·.1 == name)

/-- The value that is given last. -/
def value? (given : Given) (name : String) : Option String :=
  (given.reverse.find? (·.1 == name)).bind Prod.snd

end Given

/-- A word that starts with a dash and has more than that is read as a switch. -/
def isSwitch (word : String) : Bool := word.startsWith "-" && 1 < word.length

/-- The switches that letters after one dash stand for. The rest of the word after one that takes a
value is that value; without a rest, the next word is, and the name of the switch is returned. -/
def lettersIn (known : List Switch) : List Char → Except Misuse (Given × Option String)
  | [] => .ok ([], none)
  | c :: rest =>
    match known.find? (·.letter == some c) with
    | none => .error (.unknownSwitch (String.ofList ['-', c]))
    | some s =>
      if s.takesValue then
        if rest.isEmpty then .ok ([], some s.long)
        else .ok ([(s.long, some (String.ofList rest))], none)
      else (lettersIn known rest).map fun (given, waiting) => ((s.long, none) :: given, waiting)

/-- The switches in a word, and the name of the one that the next word is a value of. -/
def switchesIn (known : List Switch) (word : String) : Except Misuse (Given × Option String) :=
  let cs := word.toList
  let name := String.ofList (cs.takeWhile (· != '='))
  match known.find? (·.long == name), cs.dropWhile (· != '=') with
  | some s, [] => if s.takesValue then .ok ([], some s.long) else .ok ([(s.long, none)], none)
  | some s, _ :: value =>
    if s.takesValue then .ok ([(s.long, some (String.ofList value))], none)
    else .error (.valueNotTaken name)
  | none, _ =>
    match cs with
    | '-' :: '-' :: _ => .error (.unknownSwitch name)
    | _ => lettersIn known (cs.drop 1)

/-- The switches of a command line, and the other words. Two dashes end the switches; so does the
first other word, unless switches may come between words. -/
def readSwitches (known : List Switch) (between : Bool) :
    List String → Except Misuse (Given × List String)
  | [] => .ok ([], [])
  | word :: rest =>
    if word == "--" then .ok ([], rest)
    else if isSwitch word then
      match switchesIn known word with
      | .error e => .error e
      | .ok (given, none) =>
        (readSwitches known between rest).map fun (more, words) => (given ++ more, words)
      | .ok (given, some name) =>
        match rest with
        | [] => .error (.valueMissing name)
        | value :: rest =>
          (readSwitches known between rest).map fun (more, words) =>
            (given ++ (name, some value) :: more, words)
    else if between then
      (readSwitches known between rest).map fun (given, words) => (given, word :: words)
    else .ok ([], word :: rest)

end SlashLine.CommandLine
