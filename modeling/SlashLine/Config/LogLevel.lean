import SlashLine.Text.UpperCase

/-!
# Log levels

The names of log levels, in any letter case, and their ranks.
-/

namespace SlashLine.Config

/-- What is said about a text that names no level. -/
def invalidLevelMessage (name : String) : String := "Invalid log level: " ++ name

/-- The levels that a configuration may name. -/
def configurableLevels : List String := ["DEBUG", "INFO", "WARNING", "ERROR", "CRITICAL"]

/-- The level that a configuration names, in capitals. -/
def configuredLevel? (name : String) : Option String :=
  let level := Text.capitals name
  if configurableLevels.contains level then some level else none

/-- The ranks of all names of levels. -/
def levelRanks : List (String × Nat) :=
  [("CRITICAL", 50), ("FATAL", 50), ("ERROR", 40), ("WARNING", 30), ("WARN", 30), ("INFO", 20),
   ("DEBUG", 10), ("NOTSET", 0)]

/-- The rank of a level. -/
def levelRank? (name : String) : Option Nat :=
  (levelRanks.find? (·.1 == Text.capitals name)).map Prod.snd

/-- The level where none is named. -/
def usualLevel : String := "INFO"

/-- The name that log records go by. -/
def loggerName : String := "chat_commands"

/-- The name and the rank that log records are kept by at a level, or what is wrong with it. -/
def logging (level : String) : Except String (String × Nat) :=
  match levelRank? level with
  | some rank => .ok (loggerName, rank)
  | none => .error (invalidLevelMessage level)

end SlashLine.Config
