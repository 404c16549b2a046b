import CallPath.Config
import CallPath.Json.Record
/-!
# Configurations as data

A configuration is written in two sections, `sdk` for the log level, the agent and its options and
`diagnostics` for the settings of sessions. In data that are read, every field and either section
may be missing and then has its default; fields of other names are passed over.
-/

namespace CallPath

open Json

namespace Settings

/-- The names of the fields. -/
def fieldNames : List String :=
  ["leak_warnings", "log_completed_paths", "retain_completed_paths"]

/-- The fields with their names. -/
def toFields (s : Settings) : List (String × Json) :=
  [("leak_warnings", .bool s.leakWarnings), ("log_completed_paths", .bool s.logCompletedPaths),
    ("retain_completed_paths", .bool s.retainCompletedPaths)]

def ofJson? (v : Json) : Option Settings := do
  let default : Settings := {}
  match ← recordOrDefaults? fieldNames v with
  | [leaks, log, retain] =>
    return {
      leakWarnings := ← orDefault bool? default.leakWarnings leaks
      logCompletedPaths := ← orDefault bool? default.logCompletedPaths log
      retainCompletedPaths := ← orDefault bool? default.retainCompletedPaths retain }
  | _ => none

end Settings

namespace Config

/-- The fields of the section `sdk` with their names. -/
def toFields (c : Config) : List (String × Json) :=
  [("log_level", .string c.logLevel), ("agent", .string c.agent),
    ("options", .array (c.options.map .string))]

/-- The configuration in its two sections. -/
def toJson (c : Config) : Json :=
  .object [("sdk", .object c.toFields), ("diagnostics", .object c.settings.toFields)]

/-- Reads the section `sdk`; the settings are the default ones. -/
def ofSection? (v : Json) : Option Config := do
  let default : Config := {}
  match ← recordOrDefaults? ["log_level", "agent", "options"] v with
  | [logLevel, agent, options] =>
    return {
      logLevel := ← orDefault text? default.logLevel logLevel
      agent := ← orDefault text? default.agent agent
      options := ← orDefault (list? text?) default.options options }
  | _ => none

/-- Reads a configuration. -/
def ofJson? (v : Json) : Option Config := do
  match ← recordOrDefaults? ["sdk", "diagnostics"] v with
  | [sdk, diagnostics] =>
    let c ← orDefault ofSection? {} sdk
    return { c with settings := ← orDefault Settings.ofJson? {} diagnostics }
  | _ => none

end Config

end CallPath
