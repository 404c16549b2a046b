import CallPath.Toml
import CallPath.Toml.Text
/-!
# Numbers, dates and times in TOML texts

Digits may be separated by single underscores. An integer has 64 bits with sign, in base ten or,
without sign, in base 16, 8 or 2; a decimal one has no leading zeros. A float rounds to the
nearest one; only a positive one beyond the range of floats is refused. Dates and times are
checked against the calendar and the clock, where a minute may have a 61st second.
-/

namespace CallPath.Toml

/-- One digit or more with single underscores between them; the underscores are dropped. -/
def digitRun? (isDigit : Char → Bool) : List Char → Option (List Char × List Char)
  | [] => none
  | c :: cs =>
    if !isDigit c then none
    else
      match cs with
      | '_' :: cs => (digitRun? isDigit cs).map fun (ds, rest) => (c :: ds, rest)
      | cs =>
        match digitRun? isDigit cs with
        | some (ds, rest) => some (c :: ds, rest)
        | none => some ([c], cs)

/-- The number that digits in a base stand for. -/
def digitsValue (base : Nat) (ds : List Char) : Nat :=
  Encoding.ofDigits base (ds.map fun c => (Encoding.Hex.digit? c).getD 0)

/-- The digits before the point: a single zero, or a run that does not start with one. -/
def wholeDigits? : List Char → Option (List Char × List Char)
  | '0' :: cs => some (['0'], cs)
  | cs => digitRun? Char.isDigit cs

/-- A sign, if there is one; tells whether it is a minus. -/
def sign : List Char → Bool × List Char
  | '-' :: cs => (true, cs)
  | '+' :: cs => (false, cs)
  | cs => (false, cs)

/-- An integer in the range of 64 bits with sign. -/
def word? (n : Int) : Option Toml :=
  if -Int.pow 2 63 ≤ n ∧ n < Int.pow 2 63 then some (.integer n) else none

/-- An integer in base 16, 8 or 2, after its marker. -/
def based? (base : Nat) (isDigit : Char → Bool) (cs : List Char) :
    Option (Toml × List Char) := do
  let (ds, rest) ← digitRun? isDigit cs
  return (← word? (digitsValue base ds), rest)

/-- Whether a character is a digit in base 16, in either case. -/
def isHexDigit (c : Char) : Bool :=
  (Encoding.Hex.digit? c).isSome

/-- The fraction after the digits before the point, if there is one. -/
def fraction? : List Char → Option (Option (List Char) × List Char)
  | '.' :: cs => (digitRun? Char.isDigit cs).map fun (ds, rest) => (some ds, rest)
  | cs => some (none, cs)

/-- The exponent, if there is one. -/
def exponent? : List Char → Option (Option Int × List Char)
  | c :: cs =>
    if c = 'e' || c = 'E' then do
      let (negative, cs) := sign cs
      let (ds, rest) ← digitRun? Char.isDigit cs
      let e : Int := digitsValue 10 ds
      return (some (if negative then -e else e), rest)
    else some (none, c :: cs)
  | [] => some (none, [])

/-- The float nearest to `m` times ten to the `e`, where `m` has the given number of digits. -/
def nearestFloat (m digits : Nat) (e : Int) : Float :=
  if m = 0 || e + digits < -400 then 0.0
  else if e > 400 then 1.0 / 0.0
  else Float.ofScientific m (e < 0) e.natAbs

/-- A number in base ten. -/
def decimal? (cs : List Char) : Option (Toml × List Char) := do
  let (negative, cs) := sign cs
  match cs with
  | 'i' :: 'n' :: 'f' :: rest =>
    return (.float (if negative then (-1.0 : Float) / 0.0 else 1.0 / 0.0).toBits, rest)
  | 'n' :: 'a' :: 'n' :: rest => return (.float (0.0 / 0.0 : Float).toBits, rest)
  | cs =>
    let (whole, cs) ← wholeDigits? cs
    let (fraction, cs) ← fraction? cs
    let (exponent, rest) ← exponent? cs
    match fraction, exponent with
    | none, none =>
      let n : Int := digitsValue 10 whole
      return (← word? (if negative then -n else n), rest)
    | _, _ =>
      let places := fraction.getD []
      let f := nearestFloat (digitsValue 10 (whole ++ places)) (whole.length + places.length)
        (exponent.getD 0 - places.length)
      if f.isInf && !negative then none
      return (.float (if negative then -f else f).toBits, rest)

/-- A number in any base. -/
def number? : List Char → Option (Toml × List Char)
  | '0' :: 'x' :: cs => based? 16 isHexDigit cs
  | '0' :: 'o' :: cs => based? 8 (fun c => '0' ≤ c && c ≤ '7') cs
  | '0' :: 'b' :: cs => based? 2 (fun c => c = '0' || c = '1') cs
  | cs => decimal? cs

/-! ## Dates and times -/

/-- A number of a fixed count of digits, within bounds. -/
def field? (width low high : Nat) (cs : List Char) : Option (Nat × List Char) :=
  let ds := cs.take width
  let n := digitsValue 10 ds
  if ds.length = width && ds.all Char.isDigit && low ≤ n && n ≤ high then
    some (n, cs.drop width)
  else none

/-- The text after one given character. -/
def char? (c : Char) : List Char → Option (List Char)
  | d :: cs => if d = c then some cs else none
  | [] => none

/-- The number of days of a month. -/
def daysInMonth (year month : Nat) : Nat :=
  if month = 2 then
    if year % 4 = 0 && (year % 100 ≠ 0 || year % 400 = 0) then 29 else 28
  else if month ∈ [4, 6, 9, 11] then 30
  else 31

/-- The text after a date. -/
def date? (cs : List Char) : Option (List Char) := do
  let (year, cs) ← field? 4 0 9999 cs
  let (month, cs) ← field? 2 1 12 (← char? '-' cs)
  let (_, cs) ← field? 2 1 (daysInMonth year month) (← char? '-' cs)
  return cs

/-- The text after a fraction of a second, if there is one. -/
def skipSecondFraction : List Char → List Char
  | '.' :: c :: cs => if c.isDigit then cs.dropWhile Char.isDigit else '.' :: c :: cs
  | cs => cs

/-- The text after a time of the day. -/
def time? (cs : List Char) : Option (List Char) := do
  let (_, cs) ← field? 2 0 23 cs
  let (_, cs) ← field? 2 0 59 (← char? ':' cs)
  let (_, cs) ← field? 2 0 60 (← char? ':' cs)
  return skipSecondFraction cs

/-- The text after hours and minutes. -/
def hoursAndMinutes? (cs : List Char) : Option (List Char) := do
  let (_, cs) ← field? 2 0 23 cs
  let (_, cs) ← field? 2 0 59 (← char? ':' cs)
  return cs

/-- The text after an offset from universal time, if there is one. -/
def skipOffset (cs : List Char) : List Char :=
  match cs with
  | 'Z' :: rest | 'z' :: rest => rest
  | '+' :: rest | '-' :: rest => (hoursAndMinutes? rest).getD cs
  | _ => cs

/-- The text after the time that follows a date, if one does. -/
def skipTime (cs : List Char) : List Char :=
  match cs with
  | 'T' :: rest | 't' :: rest | ' ' :: rest => ((time? rest).map skipOffset).getD cs
  | _ => cs

/-- A date, a time, or both. -/
def moment? (cs : List Char) : Option (Toml × List Char) :=
  (((date? cs).map skipTime).or (time? cs)).map fun rest => (.moment, rest)

end CallPath.Toml
