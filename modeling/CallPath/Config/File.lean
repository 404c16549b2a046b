import CallPath.Config.Overrides
import CallPath.Config.Text
import CallPath.FileTree
/-!
# Configuration files

A configuration is loaded from the first of these files that exists: one named explicitly, one
named by a variable, one in the user's directory of configurations, one for the whole system. If
there is none, the defaults are used. Variables override what was loaded, and the result must be
valid. `load` and `loadFile` differ in that: `loadFile` reads one file and nothing else.
-/

namespace CallPath.Config

/-- What a configuration is loaded from: files, and variables that hold texts. -/
structure Surroundings where
  files : FileTree := .empty
  values : List (String × String) := []
  deriving Repr

namespace Surroundings

/-- The value of a variable. -/
def valueOf (s : Surroundings) (name : String) : Option String :=
  (s.values.find? (·.1 = name)).map Prod.snd

/-- The file in the user's directory of configurations, if there is such a directory. -/
def userPath? (s : Surroundings) : Option String :=
  let directory := (s.valueOf "XDG_CONFIG_HOME").or
    ((s.valueOf "HOME").map fun home => FileTree.join home ".config")
  directory.map fun d => FileTree.join (FileTree.join d "tracepath") "config.toml"

/-- The file for the whole system. -/
def systemPath : String := "/etc/tracepath/config.toml"

/-- The files that are looked for, in order. -/
def candidates (s : Surroundings) (explicit : Option String) : List String :=
  explicit.toList ++ (s.valueOf "TRACEPATH_CONFIG").toList ++ s.userPath?.toList ++ [systemPath]

/-- The file to load. -/
def locate (s : Surroundings) (explicit : Option String) : Option String :=
  (s.candidates explicit).find? s.files.exists?

end Surroundings

/-- Loads a configuration from a file, as it is. -/
def loadFile (files : FileTree) (path : String) : Except ConfigError Config :=
  if !files.exists? path then .error (.notFound path)
  else
    match files.read path with
    | .error e => .error (.unreadable e)
    | .ok text => (ofText? text).elim (.error .malformed) .ok

/-- Loads the configuration that is in effect. -/
def load (s : Surroundings) (explicit : Option String) : Except ConfigError Config := do
  let found ← (s.locate explicit).elim (.ok {}) (loadFile s.files)
  let c := found.override s.valueOf
  c.validate
  return c

/-- Saves a configuration to a file. -/
def save (c : Config) (files : FileTree) (path : String) : Except ConfigError FileTree :=
  (files.write path c.toText.toUTF8.toList).mapError .unreadable

end CallPath.Config
