import CallPath.Config
import CallPath.Toml.Document
import CallPath.Toml.Quoted
/-!
# Configurations as text

A configuration is a TOML text with the sections `sdk` and `diagnostics`. Missing keys and
sections have their defaults, and keys of other names are passed over. A section may also be given
as an array of its values in order.
-/

namespace CallPath

namespace Toml

/-- A text. -/
def text? : Toml → Option String
  | .string s => some s
  | _ => none

/-- A truth value. -/
def bool? : Toml → Option Bool
  | .bool b => some b
  | _ => none

/-- A list of texts. -/
def texts? : Toml → Option (List String)
  | .array items => items.mapM text?
  | _ => none

/-- The values of a section, in the order of its keys. A date or a time has none of the keys, and
an array of tables has tables in their place. -/
def section? (keys : List String) : Toml → Option (List (Option Toml))
  | .table _ entries => some (keys.map (Entries.get? entries))
  | .array items => some ((List.range keys.length).map fun i => items[i]?)
  | .tables elements =>
    some ((List.range keys.length).map fun i => (elements[i]?).map (.table .header))
  | .moment => some (keys.map fun _ => none)
  | _ => none

/-- A value that has a default when it is missing. -/
def orDefault {α : Type} (read : Toml → Option α) (default : α) : Option Toml → Option α
  | none => some default
  | some v => read v

end Toml

/-- Reads the section of settings. -/
def Settings.ofToml? (v : Toml) : Option Settings := do
  let default : Settings := {}
  match ← v.section? ["leak_warnings", "log_completed_paths", "retain_completed_paths"] with
  | [leaks, log, retain] =>
    return {
      leakWarnings := ← Toml.orDefault Toml.bool? default.leakWarnings leaks
      logCompletedPaths := ← Toml.orDefault Toml.bool? default.logCompletedPaths log
      retainCompletedPaths := ← Toml.orDefault Toml.bool? default.retainCompletedPaths retain }
  | _ => none

namespace Config

/-- Reads the section `sdk`; the settings are the default ones. -/
def ofToml? (v : Toml) : Option Config := do
  let default : Config := {}
  match ← v.section? ["log_level", "agent", "options"] with
  | [logLevel, agent, options] =>
    return {
      logLevel := ← Toml.orDefault Toml.text? default.logLevel logLevel
      agent := ← Toml.orDefault Toml.text? default.agent agent
      options := ← Toml.orDefault Toml.texts? default.options options }
  | _ => none

/-- Reads a configuration from its text. -/
def ofText? (text : String) : Option Config := do
  let entries ← Toml.parse? text
  let c ← Toml.orDefault ofToml? {} (Toml.Entries.get? entries "sdk")
  let settings ← Toml.orDefault Settings.ofToml? {} (Toml.Entries.get? entries "diagnostics")
  return { c with settings }

/-- A line that gives a key a truth value. -/
def flagLine (key : String) (b : Bool) : String :=
  key ++ " = " ++ (if b then "true" else "false") ++ "\n"

/-- The text of a configuration, complete with all keys. -/
def toText (c : Config) : String :=
  "[sdk]\n" ++
  "log_level = " ++ Toml.quoted c.logLevel ++ "\n" ++
  "agent = " ++ Toml.quoted c.agent ++ "\n" ++
  "options = " ++ Toml.quotedList c.options ++ "\n" ++
  "\n[diagnostics]\n" ++
  flagLine "leak_warnings" c.settings.leakWarnings ++
  flagLine "log_completed_paths" c.settings.logCompletedPaths ++
  flagLine "retain_completed_paths" c.settings.retainCompletedPaths

end Config

end CallPath
