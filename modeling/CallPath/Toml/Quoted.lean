import CallPath.Encoding.Hex
/-!
# Writing TOML strings

A string is written in the plainest spelling that can hold it as it is: short basic, short
literal, long basic, long literal. If none can, it is written as a basic string with escapes, long
if it has line breaks.
-/

namespace CallPath.Toml

/-- Whether a character can only be written as an escape. -/
def needsEscape (c : Char) : Bool :=
  (c.toNat < 0x20 && c ≠ '\t' && c ≠ '\n') || c.toNat = 0x7f

/-- The length of the longest run of a character, given the length of the run before. -/
def longestRunFrom (quote : Char) (run : Nat) : List Char → Nat
  | [] => run
  | c :: cs =>
    if c = quote then longestRunFrom quote (run + 1) cs
    else max run (longestRunFrom quote 0 cs)

/-- The length of the longest run of a character. -/
def longestRun (quote : Char) (cs : List Char) : Nat :=
  longestRunFrom quote 0 cs

/-- The spellings of a string. -/
inductive Spelling where
  | basic
  | literal
  | longBasic
  | longLiteral
  deriving DecidableEq, Repr

/-- The plainest spelling that holds a text. -/
def Spelling.of (cs : List Char) : Spelling :=
  let escapes := cs.any needsEscape
  let backslash := cs.contains '\\'
  let breaks := cs.contains '\n'
  if !escapes && !backslash && !breaks && !cs.contains '"' then .basic
  else if !escapes && !breaks && !cs.contains '\'' then .literal
  else if !escapes && !backslash && longestRun '"' cs ≤ 2 then .longBasic
  else if !escapes && longestRun '\'' cs ≤ 2 then .longLiteral
  else if breaks then .longBasic
  else .basic

/-- How a character is written in a basic string, apart from quotes and line breaks. -/
def escapedChar (c : Char) : List Char :=
  match c with
  | '\x08' => ['\\', 'b']
  | '\t' => ['\\', 't']
  | '\n' => ['\\', 'n']
  | '\x0c' => ['\\', 'f']
  | '\r' => ['\\', 'r']
  | '\\' => ['\\', '\\']
  | c =>
    if needsEscape c then ['\\', 'u'] ++ (Encoding.Hex.ofNat 4 c.toNat).map Char.toUpper
    else [c]

/-- The inside of a basic string. In a long one line breaks stand as they are, and a quote is
escaped only after as many plain quotes as it may have in a row. -/
def basicBody (long : Bool) (allowed : Nat) : (run : Nat) → List Char → List Char
  | _, [] => []
  | run, c :: cs =>
    if c = '"' then
      if run < allowed then '"' :: basicBody long allowed (run + 1) cs
      else '\\' :: '"' :: basicBody long allowed 0 cs
    else if long && c = '\n' then '\n' :: basicBody long allowed 0 cs
    else escapedChar c ++ basicBody long allowed 0 cs

/-- A string as it is written. A long spelling of several lines starts on a line of its own. -/
def quoted (s : String) : String :=
  let cs := s.toList
  let first := if cs.contains '\n' then ['\n'] else []
  String.ofList (match Spelling.of cs with
    | .basic => ['"'] ++ basicBody false 0 0 cs ++ ['"']
    | .literal => ['\''] ++ cs ++ ['\'']
    | .longBasic => ['"', '"', '"'] ++ first ++ basicBody true 2 0 cs ++ ['"', '"', '"']
    | .longLiteral => ['\'', '\'', '\''] ++ first ++ cs ++ ['\'', '\'', '\''])

/-- A list of strings: up to one item on the line, more on lines of their own. -/
def quotedList : List String → String
  | [] => "[]"
  | [s] => "[" ++ quoted s ++ "]"
  | items => "[\n" ++ String.join (items.map fun s => "    " ++ quoted s ++ ",\n") ++ "]"

end CallPath.Toml
