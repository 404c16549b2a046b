import CallPath.Toml.Number
/-!
# Reading TOML texts

A text is a sequence of lines: headers that open a table or a new element of an array of tables,
and keys with values, which go into the table that was opened last. `parse?` gives the entries of
the root table.
-/

namespace CallPath.Toml

/-- A value that is no array and no table. -/
def scalar? (cs : List Char) : Option (Toml × List Char) :=
  match cs with
  | '"' :: _ | '\'' :: _ => (string? cs).map fun (s, rest) => (.string s, rest)
  | 't' :: 'r' :: 'u' :: 'e' :: rest => some (.bool true, rest)
  | 'f' :: 'a' :: 'l' :: 's' :: 'e' :: rest => some (.bool false, rest)
  | cs => (moment? cs).or (number? cs)

/-- The items of an array after the opening bracket or a comma. -/
def items? (value? : List Char → Option (Toml × List Char)) :
    (fuel : Nat) → List Char → Option (List Toml × List Char)
  | 0, _ => none
  | fuel + 1, cs => do
    match ← skipLines? (cs.length + 1) cs with
    | ']' :: rest => return ([], rest)
    | cs =>
      let (v, cs) ← value? cs
      match ← skipLines? (cs.length + 1) cs with
      | ']' :: rest => return ([v], rest)
      | ',' :: cs =>
        let (vs, rest) ← items? value? fuel cs
        return (v :: vs, rest)
      | _ => none

/-- A key and its value, without the end of the line. -/
def entry? (value? : List Char → Option (Toml × List Char)) (cs : List Char) :
    Option ((List String × String) × Toml × List Char) := do
  let (key, cs) ← dottedKey? cs
  let (v, rest) ← value? (skipSpace (← char? '=' cs))
  return (key, v, rest)

/-- The entries of an inline table after the opening brace or a comma, added to those before. -/
def inlineEntries? (value? : List Char → Option (Toml × List Char)) :
    (fuel : Nat) → Entries → List Char → Option (Entries × List Char)
  | 0, _, _ => none
  | fuel + 1, es, cs => do
    let ((path, key), v, cs) ← entry? value? cs
    let es ← Entries.addDotted? v key path es
    match skipSpace cs with
    | '\x7d' :: rest => return (es, rest)
    | ',' :: cs => inlineEntries? value? fuel es cs
    | _ => none

/-- A value, nested less deep than given. -/
def value? : (depth : Nat) → List Char → Option (Toml × List Char)
  | 0, _ => none
  | depth + 1, cs =>
    match cs with
    | '[' :: cs =>
      if depth = 0 then none
      else (items? (value? depth) (cs.length + 1) cs).map fun (vs, rest) => (.array vs, rest)
    | '\x7b' :: cs =>
      if depth = 0 then none
      else
        match skipSpace cs with
        | '\x7d' :: rest => some (.table .inline [], rest)
        | cs =>
          (inlineEntries? (value? depth) (cs.length + 1) [] cs).map fun (es, rest) =>
            (.table .inline es, rest)
    | cs => scalar? cs

/-- What has been read of a text: the root table, and the header that was opened last. -/
structure Document where
  root : Entries := []
  header : List String := []

namespace Document

/-- Takes a header, whose brackets are already off. -/
def openHeader? (d : Document) (openAt? : String → Entries → Option Entries)
    (path : List String) (key : String) : Option Document := do
  return { root := ← d.root.atHeader? (openAt? key) path, header := path ++ [key] }

/-- Takes a key and its value. -/
def addEntry? (d : Document) (path : List String) (key : String) (v : Toml) :
    Option Document := do
  return { d with root := ← d.root.atHeader? (Entries.addDotted? v key path) d.header }

/-- Takes a line that is not empty. -/
def line? (d : Document) : List Char → Option (Document × List Char)
  | '#' :: cs => do return (d, ← lineEnd? ('#' :: cs))
  | '[' :: '[' :: cs => do
    let ((path, key), cs) ← dottedKey? cs
    let cs ← char? ']' (← char? ']' cs)
    return (← d.openHeader? Entries.openElement? path key, ← lineEnd? cs)
  | '[' :: cs => do
    let ((path, key), cs) ← dottedKey? cs
    let cs ← char? ']' cs
    return (← d.openHeader? Entries.openTable? path key, ← lineEnd? cs)
  | cs => do
    let ((path, key), v, cs) ← entry? (value? depthLimit) cs
    return (← d.addEntry? path key v, ← lineEnd? cs)

/-- Takes all lines. -/
def lines? : (fuel : Nat) → Document → List Char → Option Document
  | 0, _, _ => none
  | fuel + 1, d, cs =>
    match skipSpace cs with
    | [] => some d
    | cs =>
      match newline? cs with
      | some cs => lines? fuel d cs
      | none => do
        let (d, cs) ← d.line? cs
        lines? fuel d cs

end Document

/-- The text after a byte order mark, if there is one. -/
def skipByteOrderMark : List Char → List Char
  | '\ufeff' :: cs => cs
  | cs => cs

/-- The entries of the root table of a text. -/
def parse? (text : String) : Option Entries :=
  (Document.lines? (text.toList.length + 1) {} (skipByteOrderMark text.toList)).map Document.root

end CallPath.Toml
