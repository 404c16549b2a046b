/-!
# Base 64

The standard alphabet with padding. Reading is strict: padding is required where the length is
not a multiple of three bytes, nowhere else allowed, and the bits that the last character carries
beyond the last byte must be zero. So every byte string has exactly one text.
-/

namespace CallPath.Encoding.Base64

/-- The character of each six-bit digit. -/
def alphabet : List Char :=
  "ABCDEFGHIJKLMNOPQRSTUVWXYZabcdefghijklmnopqrstuvwxyz0123456789+/".toList

/-- The character of a digit below 64. -/
def digitChar (d : Nat) : Char :=
  alphabet.getD d 'A'

/-- The digit a character stands for. -/
def digit? (c : Char) : Option Nat :=
  alphabet.idxOf? c

/-- Three bytes make four characters; a shorter rest is padded. -/
def encode : List UInt8 → List Char
  | [] => []
  | [a] =>
    [digitChar (a.toNat / 4), digitChar (a.toNat % 4 * 16), '=', '=']
  | [a, b] =>
    [digitChar (a.toNat / 4), digitChar (a.toNat % 4 * 16 + b.toNat / 16),
      digitChar (b.toNat % 16 * 4), '=']
  | a :: b :: c :: rest =>
    digitChar (a.toNat / 4) :: digitChar (a.toNat % 4 * 16 + b.toNat / 16) ::
      digitChar (b.toNat % 16 * 4 + c.toNat / 64) :: digitChar (c.toNat % 64) :: encode rest

/-- The byte of a padded group of two digits, if its spare bits are zero. -/
def oneByte? (p q : Nat) : Option (List UInt8) :=
  if q % 16 = 0 then some [UInt8.ofNat (p * 4 + q / 16)] else none

/-- The bytes of a padded group of three digits, if its spare bits are zero. -/
def twoBytes? (p q r : Nat) : Option (List UInt8) :=
  if r % 4 = 0 then
    some [UInt8.ofNat (p * 4 + q / 16), UInt8.ofNat (q % 16 * 16 + r / 4)]
  else none

/-- The bytes of a full group of four digits. -/
def threeBytes (p q r s : Nat) : List UInt8 :=
  [UInt8.ofNat (p * 4 + q / 16), UInt8.ofNat (q % 16 * 16 + r / 4), UInt8.ofNat (r % 4 * 64 + s)]

/-- The bytes a text stands for; `none` unless the text is exactly how they are written. -/
def decode? : List Char → Option (List UInt8)
  | [] => some []
  | [w, x, '=', '='] => do oneByte? (← digit? w) (← digit? x)
  | [w, x, y, '='] => do twoBytes? (← digit? w) (← digit? x) (← digit? y)
  | w :: x :: y :: z :: rest => do
    let group := threeBytes (← digit? w) (← digit? x) (← digit? y) (← digit? z)
    return group ++ (← decode? rest)
  | _ => none

end CallPath.Encoding.Base64
