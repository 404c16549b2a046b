import CallPath.Table
/-!
# Trees of files

Files and directories as a program sees them that opens files by their paths. A path is walked
name by name from the root: `.` and an empty name stay, `..` goes up, and each of them as well as
every name asks for a directory to start from. So a path that ends in a slash leads to a directory
or nowhere.
-/

namespace CallPath

/-- Why a file cannot be read or written. -/
inductive FileError where
  | notFound
  | alreadyExists
  | notADirectory
  | isADirectory
  | nameTooLong
  /-- The path has a null character. -/
  | invalidPath
  /-- The content is no text. -/
  | notText
  deriving DecidableEq, Repr

/-- What the error says. -/
def FileError.message : FileError → String
  | notFound => "No such file or directory (os error 2)"
  | alreadyExists => "File exists (os error 17)"
  | notADirectory => "Not a directory (os error 20)"
  | isADirectory => "Is a directory (os error 21)"
  | nameTooLong => "File name too long (os error 36)"
  | invalidPath => "file name contained an unexpected NUL byte"
  | notText => "stream did not contain valid UTF-8"

/-- A file with its content, or a directory with what is in it by name. -/
inductive FileTree where
  | file (content : List UInt8)
  | directory (entries : List (String × FileTree))
  deriving Repr

namespace FileTree

/-- The root of all before there is anything else. -/
def empty : FileTree := .directory []

/-- The tree with another one bound to a name in it. -/
def bind (name : String) (sub : FileTree) : FileTree → FileTree
  | .directory entries => .directory (Table.insertIn name sub entries)
  | .file content => .file content

/-! ## Walking -/

/-- The way from the root to a place: what is passed, each with its name, innermost first. -/
abbrev Trail := List (String × FileTree)

/-- What is at the end of a way. -/
def place (root : FileTree) (trail : Trail) : FileTree :=
  trail.head?.elim root Prod.snd

/-- The tree with the end of a way replaced. -/
def replace (root : FileTree) : Trail → FileTree → FileTree
  | [], new => new
  | (name, _) :: above, new => root.replace above (bind name new (root.place above))

/-- The most bytes that a name may have. -/
def maxName : Nat := 255

/-- The most bytes that a path may have. -/
def maxPath : Nat := 4095

/-- One step of a walk. -/
def step (root : FileTree) (trail : Trail) (name : String) : Except FileError Trail :=
  match root.place trail with
  | .file _ => .error .notADirectory
  | .directory entries =>
    if name = "" || name = "." then .ok trail
    else if name = ".." then .ok trail.tail
    else if name.utf8ByteSize > maxName then .error .nameTooLong
    else
      match Table.findIn name entries with
      | none => .error .notFound
      | some sub => .ok ((name, sub) :: trail)

/-- The way that names lead from the root. -/
def walk (root : FileTree) (names : List String) : Except FileError Trail :=
  names.foldlM root.step []

/-- The names in a path, between its slashes. -/
def names (path : String) : List String :=
  path.splitOn "/"

/-- Refuses a path that cannot lead anywhere in any tree. -/
def requirePath (path : String) : Except FileError Unit :=
  if path.toList.contains '\x00' then .error .invalidPath
  else if path = "" then .error .notFound
  else if path.utf8ByteSize > maxPath then .error .nameTooLong
  else .ok ()

/-- What a path leads to. -/
def find (root : FileTree) (path : String) : Except FileError FileTree := do
  requirePath path
  return root.place (← root.walk (names path))

/-- Whether a path leads to anything. -/
def exists? (root : FileTree) (path : String) : Bool :=
  (root.find path).isOk

/-- Whether a path leads to a directory. -/
def isDirectory (root : FileTree) (path : String) : Bool :=
  match root.find path with
  | .ok (.directory _) => true
  | _ => false

/-- The text of a file. -/
def read (root : FileTree) (path : String) : Except FileError String := do
  match ← root.find path with
  | .directory _ => throw .isADirectory
  | .file content =>
    match String.fromUTF8? ⟨content.toArray⟩ with
    | some text => return text
    | none => throw .notText

/-! ## Making and writing -/

/-- A path without the slashes at its end, cut before its last name. -/
def lastName (path : String) : List String × String :=
  match (names path).reverse.dropWhile (· = "") with
  | [] => ([], "")
  | last :: above => (above.reverse, last)

/-- Whether the name leads to a directory wherever it leads. -/
def staysOrGoesUp (name : String) : Bool :=
  name = "" || name = "." || name = ".."

/-- Makes one directory in one that exists. -/
def makeDirectory (root : FileTree) (path : String) : Except FileError FileTree := do
  requirePath path
  let (above, last) := lastName path
  let trail ← root.walk above
  match root.place trail with
  | .file _ => throw .notADirectory
  | .directory entries =>
    if staysOrGoesUp last then throw .alreadyExists
    if last.utf8ByteSize > maxName then throw .nameTooLong
    if (Table.findIn last entries).isSome then throw .alreadyExists
    return root.replace trail (.directory (Table.insertIn last (.directory []) entries))

/-- Puts a content into a file, which is made if it is missing, in a directory that exists. -/
def put (root : FileTree) (path : String) (content : List UInt8) : Except FileError FileTree := do
  requirePath path
  let (above, last) := lastName path
  let trail ← root.walk above
  match root.place trail with
  | .file _ => throw .notADirectory
  | .directory entries =>
    if staysOrGoesUp last || path.endsWith "/" then throw .isADirectory
    if last.utf8ByteSize > maxName then throw .nameTooLong
    if let some (.directory _) := Table.findIn last entries then throw .isADirectory
    return root.replace trail (.directory (Table.insertIn last (.file content) entries))

/-- The names of a path in reverse, without those at its end that stay. -/
def trimmed : List String → List String
  | name :: above => if name = "" || name = "." then trimmed above else name :: above
  | [] => []

/-- The path that has the names, given in reverse. -/
def pathOf (reversed : List String) : String :=
  "/".intercalate reversed.reverse

/-- Makes a directory along with the missing ones above it. It may be there already. The path is
given by its names in reverse. -/
def makeAll (root : FileTree) : List String → Except FileError FileTree
  | [] => .ok root
  | name :: above =>
    if name = "" || name = "." then root.makeAll above
    else
      let path := pathOf (name :: above)
      let made (root : FileTree) : Except FileError FileTree :=
        match root.makeDirectory path with
        | .error .alreadyExists => if root.isDirectory path then .ok root else .error .alreadyExists
        | result => result
      match made root with
      | .error .notFound => root.makeAll above >>= made
      | result => result

/-- Makes a directory along with the missing ones above it. -/
def makeDirectories (root : FileTree) (path : String) : Except FileError FileTree :=
  root.makeAll (names path).reverse

/-- Writes a file along with the missing directories above it. -/
def write (root : FileTree) (path : String) (content : List UInt8) : Except FileError FileTree := do
  let root ← root.makeAll (trimmed (names path).reverse).tail
  root.put path content

/-- Joins a path to a directory; a path that starts at the root stands for itself. -/
def join (directory path : String) : String :=
  if path.startsWith "/" || directory = "" then path
  else if directory.endsWith "/" then directory ++ path
  else directory ++ "/" ++ path

end FileTree

end CallPath
