import CallPath.Json
/-!
# Records, enumerations and lists in JSON

How structured data are read from a value. A record is an object that has each of its fields at
most once and may have others, or an array of exactly its fields in order. A missing field of an
object reads like null where the field is optional. A choice without data is its name, or an
object with that name alone and null as its value.
-/

namespace CallPath.Json

/-- A text. -/
def text? : Json → Option String
  | .string s => some s
  | _ => none

/-- A truth value. -/
def bool? : Json → Option Bool
  | .bool b => some b
  | _ => none

/-- An integer from 0 up to, but not including, the limit. -/
def nat? (limit : Nat) : Json → Option Nat
  | .integer n => if 0 ≤ n ∧ n < limit then some n.toNat else none
  | _ => none

/-- A list of values that are all read in the same way. -/
def list? {α : Type} (read : Json → Option α) : Json → Option (List α)
  | .array items => items.mapM read
  | _ => none

/-- A pair, as an array of two. -/
def pair? {α β : Type} (first : Json → Option α) (second : Json → Option β) :
    Json → Option (α × β)
  | .array [a, b] => do return (← first a, ← second b)
  | _ => none

/-- The only value of a key; `some none` if the key is missing, `none` if it occurs twice. -/
def field? (fields : List (String × Json)) (key : String) : Option (Option Json) :=
  match fields.filter (·.1 = key) with
  | [] => some none
  | [(_, v)] => some (some v)
  | _ => none

/-- The fields of a record, in the order of its names. -/
def record? (names : List String) : Json → Option (List (Option Json))
  | .object fields => names.mapM (field? fields)
  | .array items => if items.length = names.length then some (items.map some) else none
  | _ => none

/-- The fields of a record that has a default for each; an array may leave out the last ones. -/
def recordOrDefaults? (names : List String) : Json → Option (List (Option Json))
  | .object fields => names.mapM (field? fields)
  | .array items =>
    if items.length ≤ names.length then
      some (items.map some ++ List.replicate (names.length - items.length) none)
    else none
  | _ => none

/-- A field that must be present. -/
def required {α : Type} (read : Json → Option α) (v : Option Json) : Option α :=
  v.bind read

/-- A field that may be missing or null. -/
def optional {α : Type} (read : Json → Option α) : Option Json → Option (Option α)
  | none => some none
  | some .null => some none
  | some v => (read v).map some

/-- A field that has a default when missing. -/
def orDefault {α : Type} (read : Json → Option α) (default : α) : Option Json → Option α
  | none => some default
  | some v => read v

/-- The name of a choice without data. In a value that was kept as a whole before its parts were
looked at, an empty object serves as null. -/
def choice? (kept : Bool) : Json → Option String
  | .string s => some s
  | .object [(name, .null)] => some name
  | .object [(name, .object [])] => if kept then some name else none
  | _ => none

/-- The element of an enumeration with the given name. -/
def enum? {α : Type} (kept : Bool) (all : List α) (key : α → String) (v : Json) :
    Option α := do
  let name ← choice? kept v
  all.find? (key · = name)

end CallPath.Json
