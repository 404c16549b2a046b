import CallPath.Encoding.Hex
/-!
# Strings, keys and space in TOML texts

A reader takes the text from where it stands and gives what it read and the text that follows.
There are four spellings of a string: basic strings have escapes and literal ones do not, and
either may be short, on one line, or long, between three quotes. A key is a bare word or a short
string; dotted keys are keys joined by points.
-/

namespace CallPath.Toml

/-- A space or a tab. -/
def isSpace (c : Char) : Bool :=
  c = ' ' || c = '\t'

/-- The text after leading spaces and tabs. -/
def skipSpace (cs : List Char) : List Char :=
  cs.dropWhile isSpace

/-- Whether a character may stand in a line: no control character but the tab. -/
def isLineChar (c : Char) : Bool :=
  c = '\t' || (0x20 ≤ c.toNat && c.toNat ≠ 0x7f)

/-- The text after a line break. -/
def newline? : List Char → Option (List Char)
  | '\n' :: cs => some cs
  | '\r' :: '\n' :: cs => some cs
  | _ => none

/-- The text after a comment, if there is one. -/
def skipComment : List Char → List Char
  | '#' :: cs => cs.dropWhile isLineChar
  | cs => cs

/-- The text after the end of a line: space and a comment may precede it, and the end of the text
counts as one. -/
def lineEnd? (cs : List Char) : Option (List Char) :=
  match skipComment (skipSpace cs) with
  | [] => some []
  | cs => newline? cs

/-- The text after space, comments and line breaks; `none` if a comment is not ended by one. -/
def skipLines? : (fuel : Nat) → List Char → Option (List Char)
  | 0, _ => none
  | fuel + 1, cs =>
    match skipSpace cs with
    | '#' :: cs => newline? (cs.dropWhile isLineChar) >>= skipLines? fuel
    | cs =>
      match newline? cs with
      | some cs => skipLines? fuel cs
      | none => some cs

/-- The character with a code given in a fixed number of hexadecimal digits. -/
def codePoint? (width : Nat) (cs : List Char) : Option (Char × List Char) := do
  let ds := cs.take width
  if ds.length < width then none
  let n ← Encoding.Hex.toNat? ds
  if n.isValidChar then return (Char.ofNat n, cs.drop width) else none

/-- The character an escape stands for, after the backslash. -/
def escape? : List Char → Option (Char × List Char)
  | 'b' :: cs => some ('\x08', cs)
  | 't' :: cs => some ('\t', cs)
  | 'n' :: cs => some ('\n', cs)
  | 'f' :: cs => some ('\x0c', cs)
  | 'r' :: cs => some ('\r', cs)
  | '"' :: cs => some ('"', cs)
  | '\\' :: cs => some ('\\', cs)
  | 'u' :: cs => codePoint? 4 cs
  | 'U' :: cs => codePoint? 8 cs
  | _ => none

/-- A short basic string after its opening quote. -/
def basic? : (fuel : Nat) → List Char → Option (List Char × List Char)
  | 0, _ => none
  | _, [] => none
  | _ + 1, '"' :: cs => some ([], cs)
  | fuel + 1, '\\' :: cs => do
    let (c, cs) ← escape? cs
    let (s, rest) ← basic? fuel cs
    return (c :: s, rest)
  | fuel + 1, c :: cs => do
    if !isLineChar c then none
    let (s, rest) ← basic? fuel cs
    return (c :: s, rest)

/-- A short literal string after its opening quote. -/
def literal? : List Char → Option (List Char × List Char)
  | [] => none
  | '\'' :: cs => some ([], cs)
  | c :: cs => do
    if !isLineChar c then none
    let (s, rest) ← literal? cs
    return (c :: s, rest)

/-- The text after space and line breaks. -/
def skipBreaks : List Char → List Char
  | '\r' :: '\n' :: cs => skipBreaks cs
  | c :: cs => if isSpace c || c = '\n' then skipBreaks cs else c :: cs
  | [] => []

/-- The text after a backslash at the end of a line and all space and line breaks that follow. -/
def lineContinuation? (cs : List Char) : Option (List Char) :=
  (newline? (skipSpace cs)).map skipBreaks

/-- A run of quotes in a long string: fewer than three belong to the string, which goes on. Three
close it; up to two more before them belong to the string. -/
def closing? (quote : Char) (cs : List Char) : Option (List Char × List Char) :=
  let n := (cs.takeWhile (· = quote)).length
  if n < 3 then none
  else
    let inner := min (n - 3) 2
    some (List.replicate inner quote, cs.drop (inner + 3))

/-- A long basic string after its opening quotes. -/
def longBasic? : (fuel : Nat) → List Char → Option (List Char × List Char)
  | 0, _ => none
  | _, [] => none
  | fuel + 1, '"' :: cs =>
    match closing? '"' ('"' :: cs) with
    | some r => some r
    | none => do
      let (s, rest) ← longBasic? fuel cs
      return ('"' :: s, rest)
  | fuel + 1, '\\' :: cs =>
    match lineContinuation? cs with
    | some cs => longBasic? fuel cs
    | none => do
      let (c, cs) ← escape? cs
      let (s, rest) ← longBasic? fuel cs
      return (c :: s, rest)
  | fuel + 1, c :: cs =>
    match newline? (c :: cs) with
    | some cs => do
      let (s, rest) ← longBasic? fuel cs
      return ('\n' :: s, rest)
    | none => do
      if !isLineChar c then none
      let (s, rest) ← longBasic? fuel cs
      return (c :: s, rest)

/-- A long literal string after its opening quotes. -/
def longLiteral? : (fuel : Nat) → List Char → Option (List Char × List Char)
  | 0, _ => none
  | _, [] => none
  | fuel + 1, '\'' :: cs =>
    match closing? '\'' ('\'' :: cs) with
    | some r => some r
    | none => do
      let (s, rest) ← longLiteral? fuel cs
      return ('\'' :: s, rest)
  | fuel + 1, c :: cs =>
    match newline? (c :: cs) with
    | some cs => do
      let (s, rest) ← longLiteral? fuel cs
      return ('\n' :: s, rest)
    | none => do
      if !isLineChar c then none
      let (s, rest) ← longLiteral? fuel cs
      return (c :: s, rest)

/-- The text after a line break that directly follows the opening quotes of a long string. -/
def skipFirstBreak (cs : List Char) : List Char :=
  (newline? cs).getD cs

/-- A string in any spelling. -/
def string? (cs : List Char) : Option (String × List Char) :=
  let read : Option (List Char × List Char) :=
    match cs with
    | '"' :: '"' :: '"' :: cs => longBasic? (cs.length + 1) (skipFirstBreak cs)
    | '"' :: cs => basic? (cs.length + 1) cs
    | '\'' :: '\'' :: '\'' :: cs => longLiteral? (cs.length + 1) (skipFirstBreak cs)
    | '\'' :: cs => literal? cs
    | _ => none
  read.map fun (s, rest) => (String.ofList s, rest)

/-- Whether a character may stand in a bare key. -/
def isBareChar (c : Char) : Bool :=
  c.isAlphanum || c = '-' || c = '_'

/-- A single key. -/
def key? (cs : List Char) : Option (String × List Char) :=
  match cs with
  | '"' :: cs => (basic? (cs.length + 1) cs).map fun (s, rest) => (String.ofList s, rest)
  | '\'' :: cs => (literal? cs).map fun (s, rest) => (String.ofList s, rest)
  | cs =>
    match cs.takeWhile isBareChar with
    | [] => none
    | word => some (String.ofList word, cs.dropWhile isBareChar)

/-- Keys joined by points; there may be space around each. -/
def keys? : (fuel : Nat) → List Char → Option (List String × List Char)
  | 0, _ => none
  | fuel + 1, cs => do
    let (k, cs) ← key? (skipSpace cs)
    match skipSpace cs with
    | '.' :: cs =>
      let (ks, rest) ← keys? fuel cs
      return (k :: ks, rest)
    | cs => return ([k], cs)

/-- Neither keys nor values may be nested this deep. -/
def depthLimit : Nat := 80

/-- A dotted key: the keys on the way and the last one. -/
def dottedKey? (cs : List Char) : Option ((List String × String) × List Char) := do
  let (ks, rest) ← keys? (cs.length + 1) cs
  if ks.length ≥ depthLimit then none
  let last ← ks.getLast?
  return ((ks.dropLast, last), rest)

end CallPath.Toml
