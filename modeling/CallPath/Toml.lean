/-!
# TOML values

A table remembers how it came to be, because that decides what a text may still add to it. A table
opened by its own header takes keys under that header only; one that was only implied by the
header of another table may still be opened; one made by dotted keys takes further dotted keys; an
inline table is closed. An array of tables takes new elements, and what is written below its key
goes into the last one.
-/

namespace CallPath

/-- How a table came to be. -/
inductive Toml.Origin where
  /-- By its own header, or as the root. -/
  | header
  /-- On the way to a table with a header. -/
  | implied
  /-- On the way of a dotted key. -/
  | dotted
  /-- In braces, as a value. -/
  | inline
  deriving DecidableEq, Repr

/-- A TOML value. A float is given by its 64 bits; of dates and times only the fact is kept. -/
inductive Toml where
  | string (text : String)
  | integer (n : Int)
  | float (bits : UInt64)
  | bool (b : Bool)
  | moment
  | array (items : List Toml)
  | table (origin : Toml.Origin) (entries : List (String × Toml))
  /-- An array of tables made by headers, element by element. -/
  | tables (elements : List (List (String × Toml)))
  deriving Repr

namespace Toml

/-- The keys of a table with their values. -/
abbrev Entries := List (String × Toml)

namespace Entries

/-- The value of a key. -/
def get? (es : Entries) (key : String) : Option Toml :=
  (es.find? (·.1 = key)).map Prod.snd

/-- The entries with another value for a key that is there. -/
def replace (es : Entries) (key : String) (v : Toml) : Entries :=
  es.map fun e => if e.1 = key then (key, v) else e

/-- The entries with a new key. -/
def add (es : Entries) (key : String) (v : Toml) : Entries :=
  es ++ [(key, v)]

/-- Adds a key that must be new. -/
def addNew? (es : Entries) (key : String) (v : Toml) : Option Entries :=
  if (es.get? key).isSome then none else some (es.add key v)

/-- Changes the last of the elements of an array of tables. -/
def modifyLast? (g : Entries → Option Entries) (elements : List Entries) :
    Option (List Entries) := do
  let last ← elements.getLast?
  return elements.dropLast ++ [← g last]

/-- Adds a key below dotted keys that are written in this table. Tables that dotted keys make may
be extended in this way; others may only be passed on the way to one that dotted keys make. -/
def addDotted? (v : Toml) (key : String) : List String → Entries → Option Entries
  | [], es => es.addNew? key v
  | k :: path, es =>
    match es.get? k with
    | none => do return es.add k (.table .dotted (← addDotted? v key path []))
    | some (.table .dotted inner) => do
      return es.replace k (.table .dotted (← addDotted? v key path inner))
    | some (.table .implied inner) =>
      if path = [] then none
      else do return es.replace k (.table .implied (← addDotted? v key path inner))
    | some (.tables elements) =>
      if path = [] then none
      else do return es.replace k (.tables (← modifyLast? (addDotted? v key path) elements))
    | some _ => none

/-- Changes the table that header keys lead to; tables that are missing on the way are implied. -/
def atHeader? (g : Entries → Option Entries) : List String → Entries → Option Entries
  | [], es => g es
  | k :: path, es =>
    match es.get? k with
    | none => do return es.add k (.table .implied (← atHeader? g path []))
    | some (.table .inline _) => none
    | some (.table origin inner) => do
      return es.replace k (.table origin (← atHeader? g path inner))
    | some (.tables elements) => do
      return es.replace k (.tables (← modifyLast? (atHeader? g path) elements))
    | some _ => none

/-- Opens a table under a key; it must be new or only implied so far. -/
def openTable? (key : String) (es : Entries) : Option Entries :=
  match es.get? key with
  | none => some (es.add key (.table .header []))
  | some (.table .implied inner) => some (es.replace key (.table .header inner))
  | some _ => none

/-- Opens a new element of the array of tables under a key. -/
def openElement? (key : String) (es : Entries) : Option Entries :=
  match es.get? key with
  | none => some (es.add key (.tables [[]]))
  | some (.tables elements) => some (es.replace key (.tables (elements ++ [[]])))
  | some _ => none

end Entries

end Toml

end CallPath
