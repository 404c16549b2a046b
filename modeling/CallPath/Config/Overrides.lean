import CallPath.Config
/-!
# Overrides from the environment

Five variables override a configuration. The list of options is separated by commas; white space
around an option and empty options are dropped. A flag is overridden only by `true` or `false`.
-/

namespace CallPath.Config

/-- The pieces between the separators. -/
def splitAt (sep : Char) : List Char → List (List Char)
  | [] => [[]]
  | c :: cs =>
    if c = sep then [] :: splitAt sep cs
    else
      match splitAt sep cs with
      | [] => [[c]]
      | piece :: rest => (c :: piece) :: rest

/-- The options in a list separated by commas. -/
def splitOptions (text : String) : List String :=
  (((splitAt ',' text.toList).map Text.trimBlank).filter (· ≠ [])).map String.ofList

/-- A flag as it is spelled in a variable. -/
def flag? (text : String) : Option Bool :=
  if text = "true" then some true else if text = "false" then some false else none

/-- The configuration with the variables applied that are set. -/
def override (c : Config) (lookup : String → Option String) : Config :=
  let flag (name : String) (current : Bool) : Bool :=
    ((lookup name).bind flag?).getD current
  { logLevel := (lookup "TRACEPATH_LOG_LEVEL").getD c.logLevel
    agent := ((lookup "TRACEPATH_AGENT").map fun v => Text.toLower (Text.trim v)).getD c.agent
    options := ((lookup "TRACEPATH_OPTIONS").map splitOptions).getD c.options
    settings := { c.settings with
      leakWarnings := flag "TRACEPATH_LEAK_WARNINGS" c.settings.leakWarnings
      retainCompletedPaths := flag "TRACEPATH_RETAIN_PATHS" c.settings.retainCompletedPaths } }

end CallPath.Config
