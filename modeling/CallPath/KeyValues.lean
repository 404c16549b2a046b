/-!
# Lists of key/value pairs

Headers and parameters come as ordered pairs, built from a list, from two parallel lists with an
explicit count, or from a map, whose keys come out in the order of their bytes.
-/

namespace CallPath

/-- An ordered list of pairs of texts. -/
structure KeyValues where
  pairs : List (String × String) := []
  deriving DecidableEq, Repr

namespace KeyValues

/-- Appends a pair. -/
def push (kv : KeyValues) (key value : String) : KeyValues :=
  ⟨kv.pairs ++ [(key, value)]⟩

/-- The pairs of a list, in order. -/
def ofList (pairs : List (String × String)) : KeyValues :=
  ⟨pairs⟩

/-- Pairs the first `count` keys with values; ends early if either list does. -/
def ofParallel (keys values : List String) (count : Nat) : KeyValues :=
  ⟨(keys.zip values).take count⟩

/-- Inserts a pair into pairs sorted by key, replacing a pair with the same key. -/
def insertSorted (key value : String) : List (String × String) → List (String × String)
  | [] => [(key, value)]
  | (k, v) :: rest =>
    if key < k then (key, value) :: (k, v) :: rest
    else if key = k then (key, value) :: rest
    else (k, v) :: insertSorted key value rest

/-- The pairs of a map, sorted by key. -/
def ofMap (entries : List (String × String)) : KeyValues :=
  ⟨entries.foldl (fun sorted e => insertSorted e.1 e.2 sorted) []⟩

/-- The number of pairs. -/
def length (kv : KeyValues) : Nat :=
  kv.pairs.length

end KeyValues

end CallPath
