/-!
# JSON values

A value as it is read from or written to text. Two things a text can spell have no value: a number
beyond the range of a float, and a string with an unpaired surrogate. They are kept as
`unreadable`, which whoever skips a value may skip and whoever reads it must refuse.
-/

namespace CallPath

/-- A JSON value. A float is given by its 64 bits. -/
inductive Json where
  | null
  | bool (b : Bool)
  | integer (n : Int)
  | float (bits : UInt64)
  | string (s : String)
  | array (items : List Json)
  | object (fields : List (String × Json))
  /-- Well formed, but without a value. -/
  | unreadable
  deriving Repr

namespace Json

mutual

/-- Whether everything in the value is readable and it is nested no deeper than `depth`. -/
def fits : (depth : Nat) → Json → Bool
  | _, .unreadable => false
  | 0, .array _ => false
  | 0, .object _ => false
  | depth + 1, .array items => fitsItems depth items
  | depth + 1, .object fields => fitsFields depth fields
  | _, _ => true

/-- `fits` for every item of an array. -/
def fitsItems : (depth : Nat) → List Json → Bool
  | _, [] => true
  | depth, v :: vs => fits depth v && fitsItems depth vs

/-- `fits` for every value of an object. -/
def fitsFields : (depth : Nat) → List (String × Json) → Bool
  | _, [] => true
  | depth, (_, v) :: fs => fits depth v && fitsFields depth fs

end

/-- A text, or null. -/
def ofOption : Option String → Json
  | some s => .string s
  | none => .null

/-- A count, or null. -/
def ofCount : Option Nat → Json
  | some n => .integer n
  | none => .null

/-- The keys of an object, in order; no other value has keys. -/
def keys : Json → List String
  | .object fields => fields.map Prod.fst
  | _ => []

end Json

end CallPath
