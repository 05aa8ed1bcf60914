import SlashLine.Config.Settings

/-!
# Settings from the environment

The variables of the environment that settings are read from. They are laid out like the contents
of a configuration file.
-/

namespace SlashLine.Config

/-- The texts of the variables that are set. -/
structure Environment where
  historySize : Option String := none
  maxTips : Option String := none
  maxRetries : Option String := none
  baseDelay : Option String := none
  maxSessions : Option String := none
  useColours : Option String := none
  logLevel : Option String := none
  deriving DecidableEq, Repr

namespace Environment

/-- The names of the variables. -/
def names : List String :=
  ["CHAT_COMMANDS_HISTORY_SIZE", "CHAT_COMMANDS_MAX_TIPS", "CHAT_COMMANDS_MAX_RETRIES",
   "CHAT_COMMANDS_BASE_DELAY", "CHAT_COMMANDS_MAX_SESSIONS", "CHAT_COMMANDS_USE_COLORS",
   "LOG_LEVEL"]

/-- The variables as they are looked up by name. -/
def read (lookup : String → Option String) : Environment where
  historySize := lookup "CHAT_COMMANDS_HISTORY_SIZE"
  maxTips := lookup "CHAT_COMMANDS_MAX_TIPS"
  maxRetries := lookup "CHAT_COMMANDS_MAX_RETRIES"
  baseDelay := lookup "CHAT_COMMANDS_BASE_DELAY"
  maxSessions := lookup "CHAT_COMMANDS_MAX_SESSIONS"
  useColours := lookup "CHAT_COMMANDS_USE_COLORS"
  logLevel := lookup "LOG_LEVEL"

/-- The entries of those settings whose variables are set. -/
def present (settings : List (String × Option String)) : Entries :=
  settings.filterMap fun (name, text) => text.map fun t => (.text name, .text t)

/-- The settings as entries of the three sections, which are there even if they are empty, and the
log level. -/
def entries (env : Environment) : Entries :=
  [(.text "router",
      .mapping (present [("history_size", env.historySize), ("max_tips", env.maxTips)])),
   (.text "recovery",
      .mapping (present [("max_retries", env.maxRetries), ("base_delay", env.baseDelay),
        ("max_sessions", env.maxSessions)])),
   (.text "ui", .mapping (present [("use_colors", env.useColours)]))] ++
    present [("log_level", env.logLevel)]

end Environment

end SlashLine.Config
