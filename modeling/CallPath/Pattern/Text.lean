import CallPath.Encoding.Hex
import CallPath.Pattern
import CallPath.Text.Alphanumeric
import CallPath.Text.Blank
/-!
# Reading patterns

A reader takes the text from where it stands and gives what it read and the text that follows. In
a verbose pattern space and comments between the parts are skipped. There are no back references,
no looking around, no octal codes, and no braces: whatever asks for a closing brace is refused.
-/

namespace CallPath.Pattern

open Text (isBlank)

/-! ## Space -/

/-- The text after space and comments. -/
def skipSpace : (fuel : Nat) → List Char → List Char
  | 0, cs => cs
  | fuel + 1, cs =>
    match cs.dropWhile isBlank with
    | '#' :: cs => skipSpace fuel ((cs.dropWhile (· ≠ '\n')).drop 1)
    | cs => cs

/-- The text after space and comments, if those are to be skipped. -/
def skip (verbose : Bool) (cs : List Char) : List Char :=
  if verbose then skipSpace (cs.length + 1) cs else cs

/-- The next character behind space, with a comment sign, if those are to be skipped. -/
def peek (verbose : Bool) (cs : List Char) : Option Char :=
  if verbose then
    match cs.dropWhile isBlank with
    | '#' :: rest => ((rest.dropWhile isBlank).head?).or cs.head?
    | [] => cs.head?
    | c :: _ => some c
  else cs.head?

/-! ## Escapes -/

/-- A character that has a meaning of its own, unless it is escaped. -/
def isMeta (c : Char) : Bool :=
  "\\.+*?()|[]\x7b\x7d^$#&-~".toList.contains c

/-- Whether a backslash before the character takes its meaning away or changes nothing. -/
def isEscapable (c : Char) : Bool :=
  isMeta c || (c.toNat < 0x80 && !c.isAlphanum && c ≠ '<' && c ≠ '>')

/-- A number of hexadecimal digits, between which space may be skipped. -/
def hexDigits? (verbose : Bool) : (count : Nat) → List Char → Option (List Char × List Char)
  | 0, cs => some ([], cs)
  | count + 1, cs =>
    match skip verbose cs with
    | [] => none
    | c :: cs => do
      let (ds, rest) ← hexDigits? verbose count cs
      return (c :: ds, rest)

/-- A character by its code, in two, four or eight hexadecimal digits. -/
def coded? (verbose : Bool) (width : Nat) (cs : List Char) : Option (Pattern × List Char) := do
  let (ds, rest) ← hexDigits? verbose width cs
  let n ← Encoding.Hex.toNat? ds
  if n.isValidChar then return (.literal ⟨Char.ofNat n, width = 2⟩, skip verbose rest) else none

/-- What an escape stands for, after the backslash. -/
def escape? (verbose : Bool) : List Char → Option (Pattern × List Char)
  | [] => none
  | c :: cs =>
    let char (c : Char) : Option (Pattern × List Char) := some (.literal ⟨c, false⟩, cs)
    match c with
    | 'x' => coded? verbose 2 cs
    | 'u' => coded? verbose 4 cs
    | 'U' => coded? verbose 8 cs
    | 'd' | 's' | 'w' => some (.lettered false, cs)
    | 'D' | 'S' | 'W' => some (.lettered true, cs)
    | 'A' | 'z' => some (.lineEdge, cs)
    | 'b' => if cs.head? = some '\x7b' then none else some (.wordEdge, cs)
    | 'B' | '<' | '>' => some (.wordEdge, cs)
    | 'a' => char '\x07'
    | 'f' => char '\x0c'
    | 't' => char '\t'
    | 'n' => char '\n'
    | 'r' => char '\r'
    | 'v' => char '\x0b'
    | c => if isEscapable c then char c else none

/-! ## Classes -/

/-- The names of classes of ASCII characters. -/
def classNames : List String :=
  ["alnum", "alpha", "ascii", "blank", "cntrl", "digit", "graph", "lower", "print", "punct",
    "space", "upper", "word", "xdigit"]

/-- A class by its name, after the opening bracket. -/
def named? : List Char → Option (PatternClass × List Char)
  | ':' :: cs =>
    let (negated, cs) := match cs with
      | '^' :: cs => (true, cs)
      | cs => (false, cs)
    match cs.dropWhile (· ≠ ':') with
    | ':' :: ']' :: rest =>
      if classNames.contains (String.ofList (cs.takeWhile (· ≠ ':'))) then
        some (.named negated, rest)
      else none
    | _ => none
  | _ => none

/-- A single character or an escape in a class. -/
def classItem? (verbose : Bool) : List Char → Option (Pattern × List Char)
  | [] => none
  | '\\' :: cs => escape? verbose cs
  | c :: cs => some (.literal ⟨c, false⟩, cs)

/-- A character, a class by its letter, or a range of characters in a class. -/
def classRange? (verbose : Bool) (cs : List Char) : Option (PatternClass × List Char) := do
  let (first, cs) ← classItem? verbose cs
  match skip verbose cs with
  | [] => none
  | '-' :: rest =>
    if peek verbose rest = some ']' || peek verbose rest = some '-' then alone first ('-' :: rest)
    else
      match first, ← classItem? verbose (skip verbose rest) with
      | .literal first, (.literal last, rest) =>
        if first.char ≤ last.char then some (.range first last, rest) else none
      | _, _ => none
  | rest => alone first rest
where
  /-- What a class may hold on its own. -/
  alone : Pattern → List Char → Option (PatternClass × List Char)
    | .literal c, rest => some (.one c, rest)
    | .lettered negated, rest => some (.lettered negated, rest)
    | _, _ => none

/-- The minus signs that start a class stand for themselves. -/
def leadingMinuses (verbose : Bool) : (fuel : Nat) → List Char → List PatternClass × List Char
  | 0, cs => ([], cs)
  | fuel + 1, cs =>
    match cs with
    | '-' :: cs =>
      let (items, rest) := leadingMinuses verbose fuel (skip verbose cs)
      (.one ⟨'-', false⟩ :: items, rest)
    | cs => ([], cs)

/-- The start of a class after the opening bracket: whether it is negated, and the minus signs and
the closing bracket that stand for themselves. -/
def classStart (verbose : Bool) (cs : List Char) : Bool × List PatternClass × List Char :=
  let (negated, cs) := match skip verbose cs with
    | '^' :: cs => (true, skip verbose cs)
    | cs => (false, cs)
  match leadingMinuses verbose (cs.length + 1) cs with
  | ([], ']' :: cs) => (negated, [.one ⟨']', false⟩], skip verbose cs)
  | (items, cs) => (negated, items, cs)

/-- The class of what was read so far, the last item first, joined to what came before an
operator. -/
def joined (left : Option PatternClass) (items : List PatternClass) : PatternClass :=
  left.elim (.union items.reverse) fun left => .combined left (.union items.reverse)

/-- The rest of a class up to its closing bracket. -/
def classRest? (verbose : Bool) : (fuel : Nat) → Option PatternClass → List PatternClass →
    List Char → Option (PatternClass × List Char)
  | 0, _, _, _ => none
  | fuel + 1, left, items, cs =>
    match skip verbose cs with
    | [] => none
    | ']' :: cs => some (joined left items, cs)
    | '&' :: '&' :: cs | '-' :: '-' :: cs | '~' :: '~' :: cs =>
      classRest? verbose fuel (some (joined left items)) [] cs
    | '[' :: cs =>
      match named? cs with
      | some (item, cs) => classRest? verbose fuel left (item :: items) cs
      | none =>
        let (negated, start, cs) := classStart verbose cs
        match classRest? verbose fuel none start.reverse cs with
        | none => none
        | some (inner, cs) => classRest? verbose fuel left (.bracketed negated inner :: items) cs
    | cs =>
      match classRange? verbose cs with
      | none => none
      | some (item, cs) => classRest? verbose fuel left (item :: items) cs

/-- A class after its opening bracket. -/
def class? (verbose : Bool) (cs : List Char) : Option (PatternClass × List Char) :=
  let (negated, start, rest) := classStart verbose cs
  (classRest? verbose (cs.length + 1) none start.reverse rest).map fun (inner, rest) =>
    (.bracketed negated inner, rest)

/-! ## Groups -/

/-- The flags up to a colon or a closing parenthesis; none may be listed twice, and a minus sign
may not be the last of them. -/
def flags? : List Char → List Char → Option (List Char × List Char)
  | _, [] => none
  | seen, c :: cs =>
    if c = ':' || c = ')' then
      if seen.head? = some '-' then none else some (seen.reverse, c :: cs)
    else if "imsUuRx-".toList.contains c && !seen.contains c then flags? (c :: seen) cs
    else none

/-- Whether a text may be the name of a group. -/
def isGroupName : List Char → Bool
  | [] => false
  | c :: cs =>
    (c = '_' || Text.alphabetic.contains c) &&
      cs.all fun c => c = '_' || c = '.' || c = '[' || c = ']' || Text.isAlphanumeric c

/-- How a group starts. -/
inductive GroupStart where
  /-- Flags for what follows, and no group. -/
  | flags (fs : List Char)
  | plain (fs : List Char)
  | named (name : String)

/-- The name of a group and the angle that ends it. -/
def groupName? (cs : List Char) : Option (GroupStart × List Char) :=
  let name := cs.takeWhile (· ≠ '>')
  match cs.dropWhile (· ≠ '>') with
  | _ :: rest => if isGroupName name then some (.named (String.ofList name), rest) else none
  | [] => none

/-- The start of a group after the opening parenthesis. -/
def groupStart? : List Char → Option (GroupStart × List Char)
  | '?' :: 'P' :: '<' :: cs => groupName? cs
  | '?' :: '<' :: cs => groupName? cs
  | '?' :: cs => do
    match ← flags? [] cs with
    | ([], ')' :: _) => none
    | (fs, ')' :: rest) => some (.flags fs, rest)
    | (fs, _ :: rest) => some (.plain fs, rest)
    | (_, []) => none
  | cs => some (.plain [], cs)

/-- A text that is being read: what follows, whether space is skipped, and the names of groups so
far. -/
structure Reading where
  rest : List Char
  verbose : Bool := false
  names : List String := []

/-- The pattern of all branches read so far and the items of the last one, the latest first. -/
def assembled (branches : List Pattern) (items : List Pattern) : Pattern :=
  .oneOf (.sequence items.reverse :: branches).reverse

/-- The pattern up to the end of the text or a closing parenthesis. -/
def branches? : (fuel : Nat) → Reading → List Pattern → List Pattern →
    Option (Pattern × Reading)
  | 0, _, _, _ => none
  | fuel + 1, r, branches, items =>
    let go (r : Reading) (item : Pattern) (cs : List Char) :=
      branches? fuel { r with rest := cs } branches (item :: items)
    match skip r.verbose r.rest with
    | [] => some (assembled branches items, { r with rest := [] })
    | ')' :: cs => some (assembled branches items, { r with rest := ')' :: cs })
    | '|' :: cs => branches? fuel { r with rest := cs } (.sequence items.reverse :: branches) []
    | '(' :: cs =>
      match groupStart? (skip r.verbose cs) with
      | none => none
      | some (.flags fs, cs) =>
        go { r with verbose := (setting fs 'x').getD r.verbose } (.flags fs) cs
      | some (start, cs) =>
        let (fs, names) := match start with
          | .named name => ([], [name])
          | .plain fs | .flags fs => (fs, [])
        if names.any r.names.contains then none
        else
          let inner : Reading := ⟨cs, (setting fs 'x').getD r.verbose, names ++ r.names⟩
          match branches? fuel inner [] [] with
          | some (p, { rest := ')' :: cs, names, .. }) =>
            go { r with names := names } (.group fs p) cs
          | _ => none
    | '[' :: cs => do
      let (c, cs) ← class? r.verbose cs
      go r (.charClass c) cs
    | '?' :: cs | '*' :: cs | '+' :: cs =>
      let cs := match cs with
        | '?' :: cs => cs
        | cs => cs
      match items with
      | [] | .flags _ :: _ => none
      | item :: items => branches? fuel { r with rest := cs } branches (.repeated item :: items)
    | '\x7b' :: _ => none
    | '\\' :: cs => do
      let (item, cs) ← escape? r.verbose cs
      go r item cs
    | '.' :: cs => go r .dot cs
    | '^' :: cs | '$' :: cs => go r .lineEdge cs
    | c :: cs => go r (.literal ⟨c, false⟩) cs

/-- Reads a pattern. -/
def ofText? (text : String) : Option Pattern :=
  match branches? (text.length + 1) ⟨text.toList, false, []⟩ [] [] with
  | some (p, { rest := [], .. }) => some p
  | _ => none

end CallPath.Pattern
