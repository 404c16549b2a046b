import CallPath.Json
/-!
# Numbers in JSON texts

An integer literal that fits in 64 bits, with or without sign, is an integer; every other literal
is a float. A float is computed from the leading digits that fit in 64 bits and a decimal
exponent, by one multiplication or division for each 308 powers of ten, so that its last bit may
differ from that of the nearest float. A result beyond the range of floats has no value.
-/

namespace CallPath.Json

/-- A number as it is spelled. -/
structure NumberLiteral where
  negative : Bool
  /-- The digits before the point. -/
  whole : List Nat
  /-- The digits after the point, if there is one. -/
  fraction : Option (List Nat)
  /-- The exponent, if there is one: its sign and its digits. -/
  exponent : Option (Bool × List Nat)
  deriving Repr

namespace NumberLiteral

/-- The first number that needs more than 64 bits. -/
def wordLimit : Nat := UInt64.size

/-- Appends digits to a number while it stays below 2^64; also tells how many were appended. -/
def takeDigits : (n taken : Nat) → List Nat → Nat × Nat
  | n, taken, [] => (n, taken)
  | n, taken, d :: ds =>
    if n * 10 + d < wordLimit then takeDigits (n * 10 + d) (taken + 1) ds else (n, taken)

/-- Ten to the given power, rounded to a float. -/
def tenTo (k : Nat) : Float :=
  Float.ofScientific 1 false k

/-- Divides by powers of ten, at most 308 at a time. -/
def scaleDown : (steps : Nat) → Float → Nat → Float
  | 0, f, _ => f
  | steps + 1, f, k =>
    if k ≤ 308 then f / tenTo k
    else if f == 0.0 then f
    else scaleDown steps (f / tenTo 308) (k - 308)

/-- The float of a significand and a decimal exponent; `none` beyond the range of floats. -/
def scale (significand : Nat) (exponent : Int) : Option Float :=
  let f := (UInt64.ofNat significand).toFloat
  let k := exponent.natAbs
  if exponent ≥ 0 then
    if k ≤ 308 then
      let r := f * tenTo k
      if r.isInf then none else some r
    else if significand = 0 then some f else none
  else some (scaleDown (k / 308 + 1) f k)

/-- The largest exponent that is looked at digit by digit. -/
def exponentLimit : Nat := Nat.pow 2 31

/-- The value of a literal. -/
def value (lit : NumberLiteral) : Json :=
  let (n, taken) := takeDigits 0 0 lit.whole
  let dropped := lit.whole.length - taken
  if lit.fraction.isNone && lit.exponent.isNone && dropped = 0 then
    if !lit.negative then .integer n
    else if n = 0 || n > Nat.pow 2 63 then .float (-(UInt64.ofNat n).toFloat).toBits
    else .integer (-(n : Int))
  else
    let (m, places) := takeDigits n 0 (lit.fraction.getD [])
    let shift : Int := (dropped : Int) - (places : Int)
    let magnitude : Option Float :=
      match lit.exponent with
      | none => scale m shift
      | some (negative, ds) =>
        let e := ds.foldl (fun e d => e * 10 + d) 0
        if e ≥ exponentLimit then (if m = 0 || negative then some 0.0 else none)
        else scale m (if negative then shift - e else shift + e)
    match magnitude with
    | some f => .float (if lit.negative then -f else f).toBits
    | none => .unreadable

end NumberLiteral

end CallPath.Json
