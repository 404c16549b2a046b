/-!
# Texts of bytes

A text is written as UTF-8. Bytes that should be UTF-8 but need not be are read with one
replacement character for each part that is no character: a byte that starts none, or the bytes of
one that breaks off.
-/

namespace CallPath.Text

/-- Stands for bytes that are no character. -/
def replacement : Char := '\ufffd'

/-- Whether a byte goes on with a character. -/
def goesOn (b : UInt8) : Bool :=
  0x80 ≤ b && b ≤ 0xbf

/-- Whether a character of several bytes may start with the two bytes. -/
def starts (a b : UInt8) : Bool :=
  goesOn b && 0xc2 ≤ a && a ≤ 0xf4 &&
    !(a = 0xe0 && b < 0xa0) && !(a = 0xed && 0xa0 ≤ b) &&
    !(a = 0xf0 && b < 0x90) && !(a = 0xf4 && 0x90 ≤ b)

/-- The character whose code has the bits of the first byte below a limit, followed by six bits of
every other byte. -/
def charOf (limit first : UInt8) (others : List UInt8) : Char :=
  Char.ofNat (others.foldl (fun n b => n * 64 + (b % 64).toNat) (first % limit).toNat)

/-- The characters of bytes, with replacements. -/
def charsOfBytes : List UInt8 → List Char
  | [] => []
  | [a] => [if a < 0x80 then Char.ofNat a.toNat else replacement]
  | a :: b :: rest =>
    if a < 0x80 then Char.ofNat a.toNat :: charsOfBytes (b :: rest)
    else if !starts a b then replacement :: charsOfBytes (b :: rest)
    else if a < 0xe0 then charOf 32 a [b] :: charsOfBytes rest
    else
      match rest with
      | [] => [replacement]
      | c :: rest =>
        if !goesOn c then replacement :: charsOfBytes (c :: rest)
        else if a < 0xf0 then charOf 16 a [b, c] :: charsOfBytes rest
        else
          match rest with
          | [] => [replacement]
          | d :: rest =>
            if goesOn d then charOf 8 a [b, c, d] :: charsOfBytes rest
            else replacement :: charsOfBytes (d :: rest)

/-- The UTF-8 form of a text. -/
def toBytes (s : String) : List UInt8 :=
  s.toUTF8.data.toList

/-- The text of bytes, with replacements. -/
def ofBytes (bytes : List UInt8) : String :=
  String.ofList (charsOfBytes bytes)

end CallPath.Text
