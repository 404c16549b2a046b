import CallPath.Encoding.Base32
/-!
# Tracer ids

Every tracer has an id of 128 bits. An id is shown as 26 base-32 characters and travels as 16
bytes, most significant first. The number zero is reserved: it is not the id of any tracer, and
`ofNat?` and `ofBytes?` refuse it.
-/

namespace CallPath

open Encoding

/-- The identity of a tracer. -/
structure TracerId where
  /-- The id as a number. -/
  value : Nat
  isLt : value < Nat.pow 2 128
  deriving DecidableEq, Repr

namespace TracerId

/-- The id with a given number; zero and numbers beyond 128 bits are refused. -/
def ofNat? (n : Nat) : Option TracerId :=
  if h : 0 < n ∧ n < Nat.pow 2 128 then some ⟨n, h.2⟩ else none

/-- The id of the last 128 bits of a number. -/
def ofNat (n : Nat) : TracerId :=
  ⟨n % Nat.pow 2 128, Nat.mod_lt _ (by decide)⟩

/-- The 26 characters an id is shown as. -/
def text (id : TracerId) : String :=
  String.ofList (Base32.encode 26 id.value)

/-- Reads 26 base-32 characters. They hold 130 bits, of which the upper two are dropped. -/
def ofText? (s : String) : Option TracerId :=
  if s.toList.length = 26 then
    (Base32.decode? s.toList).map ofNat
  else none

/-- The 16 bytes of an id, most significant first. -/
def toBytes (id : TracerId) : List UInt8 :=
  (digits 256 16 id.value).map UInt8.ofNat

/-- Reads exactly 16 bytes; the id zero is refused. -/
def ofBytes? (bytes : List UInt8) : Option TracerId :=
  if bytes.length = 16 then ofNat? (ofDigits 256 (bytes.map UInt8.toNat)) else none

@[simp] theorem length_toBytes (id : TracerId) : id.toBytes.length = 16 := by
  simp [toBytes]

end TracerId

end CallPath
