import CallPath.TracerId
import CallPath.Encoding.Base64
import CallPath.Text.Blank
/-!
# Tags and in-process links

A tag carries the id of a tracer to another thread or process, either as text (base 64) or as
bytes; a string tag may have picked up white space at its ends on the way. An in-process link
names a tracer of the same process. Its leading marker byte keeps it apart from byte tags.
-/

namespace CallPath

open Encoding

/-- The two representations of a tag. -/
inductive TagForm where
  | string
  | bytes
  deriving DecidableEq, Repr

/-- One tag in both representations. -/
structure EncodedTag where
  string : String
  bytes : List UInt8
  deriving DecidableEq, Repr

/-- A tag as it was received. -/
inductive IncomingTag where
  | string (text : String)
  | bytes (data : List UInt8)
  deriving DecidableEq, Repr

namespace Tag

/-- The header under which a string tag conventionally travels. -/
def httpHeaderName : String := "X-Tracepath"

/-- The message property under which a tag conventionally travels. -/
def messagePropertyName : String := "tracepathTagInfo"

/-- The number of bytes of a byte tag. -/
def byteLength : Nat := 16

/-- The byte tag of an id. -/
def encodeBytes (id : TracerId) : List UInt8 :=
  id.toBytes

/-- The string tag of an id. -/
def encodeString (id : TracerId) : String :=
  String.ofList (Base64.encode id.toBytes)

/-- The tag of an id in both forms. -/
def encodeOutgoing (id : TracerId) : EncodedTag :=
  let bytes := encodeBytes id
  { string := String.ofList (Base64.encode bytes), bytes }

/-- The bytes of a tag in either form; a string tag as its ASCII codes. -/
def encode (id : TracerId) : TagForm → List UInt8
  | .bytes => encodeBytes id
  | .string => (encodeString id).toList.map fun c => UInt8.ofNat c.toNat

/-- The id that a byte tag carries. -/
def decodeBytes (data : List UInt8) : Option TracerId :=
  TracerId.ofBytes? data

/-- The id that a string tag carries, white space around it aside. -/
def decodeString (s : String) : Option TracerId :=
  Base64.decode? (Text.trim s).toList >>= decodeBytes

end Tag

namespace IncomingTag

/-- The id that the tag carries, if it is well formed. -/
def decode : IncomingTag → Option TracerId
  | .string s => Tag.decodeString s
  | .bytes b => Tag.decodeBytes b

/-- Whether the tag holds nothing at all. -/
def isEmpty : IncomingTag → Bool
  | .string s => s.isEmpty
  | .bytes b => b.isEmpty

end IncomingTag

/-- A reference to a tracer of the same process, as opaque bytes. -/
structure InProcessLink where
  bytes : List UInt8 := []
  deriving DecidableEq, Repr

namespace InProcessLink

/-- The first byte of a link that names a tracer. -/
def marker : UInt8 := 0x4c

/-- The link to a tracer, or the empty link. -/
def ofTarget : Option TracerId → InProcessLink
  | some id => ⟨marker :: Tag.encodeBytes id⟩
  | none => ⟨[]⟩

/-- The tracer that the link names. -/
def target (link : InProcessLink) : Option TracerId :=
  match link.bytes with
  | [] => none
  | b :: rest => if b = marker then Tag.decodeBytes rest else none

/-- Whether the link names nothing at all. -/
def isEmpty (link : InProcessLink) : Bool :=
  link.bytes.isEmpty

end InProcessLink

end CallPath
