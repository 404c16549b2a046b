import CallPath.Encoding.Radix
/-!
# Base 32 text of identifiers

Crockford's alphabet: the ten digits and the letters without I, L, O and U. A letter is read in
either case and written in upper case.
-/

namespace CallPath.Encoding.Base32

/-- The character of each digit. -/
def alphabet : List Char :=
  "0123456789ABCDEFGHJKMNPQRSTVWXYZ".toList

/-- The character of a digit below 32. -/
def digitChar (d : Nat) : Char :=
  alphabet.getD d '0'

/-- The digit a character stands for, letters in either case. -/
def digit? (c : Char) : Option Nat :=
  alphabet.idxOf? c.toUpper

/-- The last `w` base-32 digits of a number, as text. -/
def encode (w n : Nat) : List Char :=
  (digits 32 w n).map digitChar

/-- The number that a text of base-32 digits stands for. -/
def decode? (cs : List Char) : Option Nat :=
  (cs.mapM digit?).map (ofDigits 32)

end CallPath.Encoding.Base32
