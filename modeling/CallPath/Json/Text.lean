import CallPath.Json.Number
/-!
# Reading JSON texts

A text holds one value with nothing but JSON white space around it. `parse?` accepts the grammar
of RFC 8259 and nothing more: no leading zeros or plus signs, no raw control characters in
strings, no trailing commas. Strings with unpaired surrogates and numbers out of range are well
formed and read as `unreadable`.
-/

namespace CallPath.Json

/-- White space between tokens. -/
def isSpace (c : Char) : Bool :=
  c = ' ' || c = '\t' || c = '\n' || c = '\r'

/-- The text after its leading white space. -/
def skipSpace (cs : List Char) : List Char :=
  cs.dropWhile isSpace

/-- The value of a decimal digit. -/
def digit? (c : Char) : Option Nat :=
  if c.isDigit then some (c.toNat - '0'.toNat) else none

/-- The digits at the front, and what follows. -/
def takeDigits : List Char → List Nat × List Char
  | [] => ([], [])
  | c :: cs =>
    match digit? c with
    | some d => let (ds, rest) := takeDigits cs; (d :: ds, rest)
    | none => ([], c :: cs)

/-- At least one digit. -/
def someDigits? (cs : List Char) : Option (List Nat × List Char) :=
  match takeDigits cs with
  | ([], _) => none
  | r => some r

/-- The digits before the point: a single zero, or digits that do not start with one. -/
def wholeDigits? (cs : List Char) : Option (List Nat × List Char) :=
  match takeDigits cs with
  | ([], _) => none
  | (0 :: _ :: _, _) => none
  | r => some r

/-- The digits after the point, if there is a point. -/
def fraction? : List Char → Option (Option (List Nat) × List Char)
  | '.' :: cs => do
    let (ds, rest) ← someDigits? cs
    return (some ds, rest)
  | cs => some (none, cs)

/-- The sign and the digits of the exponent, if there is one. -/
def exponent? : List Char → Option (Option (Bool × List Nat) × List Char)
  | c :: cs =>
    if c = 'e' || c = 'E' then do
      let (negative, cs) := match cs with
        | '+' :: cs => (false, cs)
        | '-' :: cs => (true, cs)
        | cs => (false, cs)
      let (ds, rest) ← someDigits? cs
      return (some (negative, ds), rest)
    else some (none, c :: cs)
  | [] => some (none, [])

/-- A number at the front, and what follows. -/
def number? (cs : List Char) : Option (NumberLiteral × List Char) := do
  let (negative, cs) := match cs with
    | '-' :: cs => (true, cs)
    | cs => (false, cs)
  let (whole, cs) ← wholeDigits? cs
  let (fraction, cs) ← fraction? cs
  let (exponent, cs) ← exponent? cs
  return ({ negative, whole, fraction, exponent }, cs)

/-- The value of a hexadecimal digit, in either case. -/
def hexDigit? (c : Char) : Option Nat :=
  if c.isDigit then some (c.toNat - '0'.toNat)
  else if 'a' ≤ c ∧ c ≤ 'f' then some (c.toNat - 'a'.toNat + 10)
  else if 'A' ≤ c ∧ c ≤ 'F' then some (c.toNat - 'A'.toNat + 10)
  else none

/-- Four hexadecimal digits make a 16-bit unit. -/
def unit? (a b c d : Char) : Option Nat := do
  return (((← hexDigit? a) * 16 + (← hexDigit? b)) * 16 + (← hexDigit? c)) * 16 + (← hexDigit? d)

/-- What an escape without digits stands for. -/
def shortEscape? : Char → Option Char
  | '"' => some '"'
  | '\\' => some '\\'
  | '/' => some '/'
  | 'b' => some '\x08'
  | 'f' => some '\x0c'
  | 'n' => some '\n'
  | 'r' => some '\r'
  | 't' => some '\t'
  | _ => none

/-- The 16-bit units and characters of a string, as spelled. -/
inductive StringPart where
  | char (c : Char)
  /-- Given by an escape with digits. -/
  | unit (n : Nat)

/-- The parts of a string up to its closing quote, and what follows. -/
def stringParts? : List Char → Option (List StringPart × List Char)
  | [] => none
  | '"' :: rest => some ([], rest)
  | '\\' :: 'u' :: a :: b :: c :: d :: cs => do
    let n ← unit? a b c d
    let (parts, rest) ← stringParts? cs
    return (.unit n :: parts, rest)
  | '\\' :: c :: cs => do
    let e ← shortEscape? c
    let (parts, rest) ← stringParts? cs
    return (.char e :: parts, rest)
  | c :: cs =>
    if c.toNat < 0x20 || c = '\\' then none
    else do
      let (parts, rest) ← stringParts? cs
      return (.char c :: parts, rest)

/-- Joins surrogate pairs; an unpaired surrogate has no character. -/
def joinParts? : List StringPart → Option (List Char)
  | [] => some []
  | .char c :: rest => (joinParts? rest).map (c :: ·)
  | .unit hi :: .unit lo :: rest =>
    if 0xD800 ≤ hi ∧ hi < 0xDC00 then
      if 0xDC00 ≤ lo ∧ lo < 0xE000 then
        (joinParts? rest).map
          (Char.ofNat (0x10000 + (hi - 0xD800) * 0x400 + (lo - 0xDC00)) :: ·)
      else none
    else if 0xDC00 ≤ hi ∧ hi < 0xE000 then none
    else (joinParts? (.unit lo :: rest)).map (Char.ofNat hi :: ·)
  | .unit n :: rest =>
    if 0xD800 ≤ n ∧ n < 0xE000 then none else (joinParts? rest).map (Char.ofNat n :: ·)

/-- A string after its opening quote: its text, if it has one, and what follows. -/
def string? (cs : List Char) : Option (Option String × List Char) := do
  let (parts, rest) ← stringParts? cs
  return ((joinParts? parts).map String.ofList, rest)

/-- The items of an array after the opening bracket or a comma, up to the closing bracket. -/
def items? (value? : List Char → Option (Json × List Char)) :
    (fuel : Nat) → List Char → Option (List Json × List Char)
  | 0, _ => none
  | fuel + 1, cs => do
    let (v, cs) ← value? cs
    match skipSpace cs with
    | ']' :: rest => return ([v], rest)
    | ',' :: cs =>
      let (vs, rest) ← items? value? fuel cs
      return (v :: vs, rest)
    | _ => none

/-- The fields of an object after the opening brace or a comma, up to the closing brace. A key
without a text is kept as `none`. -/
def fields? (value? : List Char → Option (Json × List Char)) :
    (fuel : Nat) → List Char → Option (List (Option String × Json) × List Char)
  | 0, _ => none
  | fuel + 1, cs => do
    match skipSpace cs with
    | '"' :: cs =>
      let (key, cs) ← string? cs
      match skipSpace cs with
      | ':' :: cs =>
        let (v, cs) ← value? cs
        match skipSpace cs with
        | '\x7d' :: rest => return ([(key, v)], rest)
        | ',' :: cs =>
          let (fs, rest) ← fields? value? fuel cs
          return ((key, v) :: fs, rest)
        | _ => none
      | _ => none
    | _ => none

/-- An object, unless one of its keys has no text. -/
def ofFields (fields : List (Option String × Json)) : Json :=
  match fields.mapM fun (key, v) => key.map (·, v) with
  | some fs => .object fs
  | none => .unreadable

/-- A value after optional white space, and what follows it. -/
def value? : (fuel : Nat) → List Char → Option (Json × List Char)
  | 0, _ => none
  | fuel + 1, cs =>
    match skipSpace cs with
    | 'n' :: 'u' :: 'l' :: 'l' :: rest => some (.null, rest)
    | 't' :: 'r' :: 'u' :: 'e' :: rest => some (.bool true, rest)
    | 'f' :: 'a' :: 'l' :: 's' :: 'e' :: rest => some (.bool false, rest)
    | '"' :: cs => do
      let (s, rest) ← string? cs
      return (s.elim .unreadable .string, rest)
    | '[' :: cs =>
      match skipSpace cs with
      | ']' :: rest => some (.array [], rest)
      | cs => do
        let (vs, rest) ← items? (value? fuel) fuel cs
        return (.array vs, rest)
    | '\x7b' :: cs =>
      match skipSpace cs with
      | '\x7d' :: rest => some (.object [], rest)
      | cs => do
        let (fs, rest) ← fields? (value? fuel) fuel cs
        return (ofFields fs, rest)
    | cs => do
      let (lit, rest) ← number? cs
      return (lit.value, rest)

/-- The value of a whole text. -/
def parse? (s : String) : Option Json := do
  let (v, rest) ← value? (s.toList.length + 1) s.toList
  if skipSpace rest = [] then some v else none

end CallPath.Json
