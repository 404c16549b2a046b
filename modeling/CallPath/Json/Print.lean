import CallPath.Json
import CallPath.Encoding.Hex
/-!
# Printing JSON

A value is printed on one line without spaces. In strings the quote, the backslash and the control
characters are escaped and nothing else. How a float is spelled is up to the caller; a value that
is unreadable is printed as null.
-/

namespace CallPath.Json

/-- How a character is written in a string. -/
def escaped (c : Char) : List Char :=
  match c with
  | '"' => ['\\', '"']
  | '\\' => ['\\', '\\']
  | '\n' => ['\\', 'n']
  | '\r' => ['\\', 'r']
  | '\t' => ['\\', 't']
  | '\x08' => ['\\', 'b']
  | '\x0c' => ['\\', 'f']
  | c => if c.toNat < 0x20 then ['\\', 'u'] ++ Encoding.Hex.ofNat 4 c.toNat else [c]

/-- A string between its quotes. -/
def stringText (s : String) : String :=
  String.ofList ('"' :: s.toList.flatMap escaped ++ ['"'])

mutual

/-- The text of a value. -/
def print (float : UInt64 → String) : Json → String
  | .null => "null"
  | .bool b => if b then "true" else "false"
  | .integer n => toString n
  | .float bits => float bits
  | .string s => stringText s
  | .array items => "[" ++ ",".intercalate (printItems float items) ++ "]"
  | .object fields => "\x7b" ++ ",".intercalate (printFields float fields) ++ "\x7d"
  | .unreadable => "null"

/-- The texts of the items of an array. -/
def printItems (float : UInt64 → String) : List Json → List String
  | [] => []
  | v :: vs => print float v :: printItems float vs

/-- The texts of the fields of an object. -/
def printFields (float : UInt64 → String) : List (String × Json) → List String
  | [] => []
  | (k, v) :: fs => (stringText k ++ ":" ++ print float v) :: printFields float fs

end

end CallPath.Json
