import CallPath.FileTree
import CallPath.Session
import CallPath.Text.LowerCase
/-!
# Configuration

A configuration says how much is logged, which agent is used with which options, and how sessions
report. It is valid if the level and the agent are known, in whatever case they are written, and
every option has the form NAME=VALUE with a name that is not blank.
-/

namespace CallPath

/-- The configuration of the library. -/
structure Config where
  logLevel : String := "info"
  agent : String := "null"
  options : List String := []
  settings : Settings := {}
  deriving DecidableEq, Repr

/-- Why a configuration cannot be used. -/
inductive ConfigError where
  /-- The file cannot be read or written. -/
  | unreadable (reason : FileError)
  /-- The file is not a configuration. -/
  | malformed
  | invalid (reason : String)
  | notFound (path : String)
  deriving DecidableEq, Repr

/-- The name of the error. -/
def ConfigError.name : ConfigError → String
  | unreadable _ => "ReadError"
  | malformed => "ParseError"
  | invalid _ => "ValidationError"
  | notFound _ => "NotFound"

/-- What the error says; a malformed file has no message of its own. -/
def ConfigError.message? : ConfigError → Option String
  | unreadable reason => some ("Failed to read config file: " ++ reason.message)
  | malformed => none
  | invalid reason => some ("Invalid configuration: " ++ reason)
  | notFound path => some ("Config file not found: " ++ path)

namespace Config

/-- The log levels that can be configured. -/
def logLevels : List String :=
  ["trace", "debug", "info", "warn", "error"]

/-- The agents that can be configured. -/
def agentNames : List String :=
  ["null", "mock"]

/-- Whether an option has a name and a value. -/
def isOption (option : String) : Bool :=
  option.toList.contains '=' && !(option.toList.takeWhile (· ≠ '=')).all Text.isBlank

/-- Checks the level, then the agent, then the options in order. -/
def validate (c : Config) : Except ConfigError Unit := do
  if Text.toLower c.logLevel ∉ logLevels then
    throw (.invalid
      s!"Invalid log level: {c.logLevel}. Must be one of: {Text.quotedList logLevels}")
  if Text.toLower c.agent ∉ agentNames then
    throw (.invalid s!"Invalid agent: {c.agent}. Must be one of: {Text.quotedList agentNames}")
  match c.options.find? fun o => !isOption o with
  | some o => throw (.invalid s!"Invalid agent option: {Text.quoted o}. Expected NAME=VALUE")
  | none => return ()

/-- The agent with a configured name, white space around it and case aside; any name but one is
the null agent's. -/
def agentFor (name : String) : Agent :=
  if Text.toLower (Text.trim name) = "mock" then .recording {} else .null

end Config

end CallPath
