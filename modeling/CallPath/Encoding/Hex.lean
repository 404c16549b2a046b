import CallPath.Encoding.Radix
/-!
# Hexadecimal text of bytes

Two lower-case digits for each byte; digits are read in either case. `decode_encode` says that
reading gives back what was written.
-/

namespace CallPath.Encoding.Hex

/-- The character of each digit. -/
def alphabet : List Char :=
  "0123456789abcdef".toList

/-- The character of a digit below 16. -/
def digitChar (d : Nat) : Char :=
  alphabet.getD d '0'

/-- The digit a character stands for, letters in either case. -/
def digit? (c : Char) : Option Nat :=
  alphabet.idxOf? c.toLower

/-- The last `w` digits of a number, as text. -/
def ofNat (w n : Nat) : List Char :=
  (digits 16 w n).map digitChar

/-- The number that a text of digits stands for. -/
def toNat? (cs : List Char) : Option Nat :=
  (cs.mapM digit?).map (ofDigits 16)

/-- The text of bytes. -/
def encode (bytes : List UInt8) : List Char :=
  bytes.flatMap fun b => [digitChar (b.toNat / 16), digitChar (b.toNat % 16)]

/-- The bytes a text of digits stands for. -/
def decode? : List Char → Option (List UInt8)
  | [] => some []
  | hi :: lo :: rest => do
    let b := UInt8.ofNat ((← digit? hi) * 16 + (← digit? lo))
    return b :: (← decode? rest)
  | [_] => none

theorem digit?_digitChar (d : Nat) (h : d < 16) : digit? (digitChar d) = some d := by
  have : ∀ d : Fin 16, digit? (digitChar d) = some d.val := by decide
  exact this ⟨d, h⟩

/-- Reading gives back the bytes that were written. -/
theorem decode_encode (bytes : List UInt8) : decode? (encode bytes) = some bytes := by
  induction bytes with
  | nil => rfl
  | cons b bs ih =>
    have hb : b.toNat < 256 := b.toNat_lt
    have hhi := digit?_digitChar (b.toNat / 16) (by omega)
    have hlo := digit?_digitChar (b.toNat % 16) (Nat.mod_lt _ (by decide))
    have hsum : UInt8.ofNat (b.toNat / 16 * 16 + b.toNat % 16) = b := by
      rw [show b.toNat / 16 * 16 + b.toNat % 16 = b.toNat by omega, UInt8.ofNat_toNat]
    have hcons : encode (b :: bs) =
        digitChar (b.toNat / 16) :: digitChar (b.toNat % 16) :: encode bs := rfl
    rw [hcons, decode?]
    simp only [hhi, hlo, ih, hsum, Option.bind_eq_bind, Option.bind_some, Option.pure_def]

end CallPath.Encoding.Hex
