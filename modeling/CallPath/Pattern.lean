/-!
# Patterns of texts

The syntax of regular expressions, as far as it decides which of them can be used. A pattern is
usable if it nests no deeper than a limit and asks for nothing that takes more than ASCII tables
(`isUsable`): letters regardless of case, classes such as `\d` and the edges of words all need
tables of Unicode, unless the pattern turns Unicode off. Without Unicode a pattern could match
bytes that are no text; one that does is not usable either.
-/

namespace CallPath

/-- A character of a pattern. -/
structure PatternChar where
  char : Char
  /-- Whether it is written as the two digits of a byte. -/
  asByte : Bool := false
  deriving DecidableEq, Repr

/-- What is between the brackets of a class of characters. -/
inductive PatternClass where
  | one (c : PatternChar)
  | range (first last : PatternChar)
  /-- A class by its name, such as `[:alpha:]`. -/
  | named (negated : Bool)
  /-- A class by its letter, such as `\d`. -/
  | lettered (negated : Bool)
  | bracketed (negated : Bool) (inner : PatternClass)
  | union (items : List PatternClass)
  /-- What two classes have in common, or what one of them has. -/
  | combined (left right : PatternClass)

/-- A pattern. -/
inductive Pattern where
  | literal (c : PatternChar)
  /-- Any character. -/
  | dot
  /-- The start or the end of a line or the text. -/
  | lineEdge
  /-- The start or the end of a word, or neither. -/
  | wordEdge
  | lettered (negated : Bool)
  | charClass (c : PatternClass)
  /-- Flags that hold from here to the end of the group. -/
  | flags (fs : List Char)
  /-- A group, with the flags that hold in it. -/
  | group (fs : List Char) (inner : Pattern)
  | repeated (inner : Pattern)
  | sequence (items : List Pattern)
  | oneOf (branches : List Pattern)

/-! ## Depth -/

mutual

/-- How deep a class nests. -/
def PatternClass.depth : PatternClass → Nat
  | .one _ | .range _ _ | .named _ | .lettered _ => 0
  | .bracketed _ inner => inner.depth + 1
  | .union [] => 0
  | .union [item] => item.depth
  | .union (item :: items) => max item.depth (depthOfAll items) + 1
  | .combined left right => max left.depth right.depth + 1

/-- How deep the deepest of some classes nests. -/
def PatternClass.depthOfAll : List PatternClass → Nat
  | [] => 0
  | item :: items => max item.depth (depthOfAll items)

end

mutual

/-- How deep a pattern nests. Sequences and alternatives of one part are no level of their own. -/
def Pattern.depth : Pattern → Nat
  | .literal _ | .dot | .lineEdge | .wordEdge | .lettered _ | .flags _ => 0
  | .charClass c => c.depth
  | .group _ inner | .repeated inner => inner.depth + 1
  | .sequence [] | .oneOf [] => 0
  | .sequence [p] | .oneOf [p] => p.depth
  | .sequence (p :: ps) | .oneOf (p :: ps) => max p.depth (depthOfAll ps) + 1

/-- How deep the deepest of some patterns nests. -/
def Pattern.depthOfAll : List Pattern → Nat
  | [] => 0
  | p :: ps => max p.depth (depthOfAll ps)

end

namespace Pattern

/-! ## What a pattern asks for -/

/-- The state of a flag in a group of flags: on if it is listed, off if it is listed after the
minus sign. -/
def setting (fs : List Char) (flag : Char) : Option Bool :=
  if (fs.takeWhile (· ≠ '-')).contains flag then some true
  else if fs.contains flag then some false
  else none

/-- How characters are compared. -/
structure Mode where
  ignoreCase : Bool := false
  unicode : Bool := true
  deriving DecidableEq, Repr

/-- The mode after flags. -/
def Mode.update (m : Mode) (fs : List Char) : Mode :=
  ⟨(setting fs 'i').getD m.ignoreCase, (setting fs 'u').getD m.unicode⟩

/-- Whether the character is usable outside of brackets. -/
def Mode.allowsChar (m : Mode) (c : PatternChar) : Bool :=
  if m.unicode then !m.ignoreCase else !(c.asByte && 0x80 ≤ c.char.toNat)

/-- Whether the character is usable in brackets. -/
def Mode.allowsInClass (m : Mode) (c : PatternChar) : Bool :=
  if m.unicode then !m.ignoreCase else c.char.toNat < 0x80

mutual

/-- Whether a class is usable. -/
def Mode.allowsClass (m : Mode) : PatternClass → Bool
  | .one c => m.allowsInClass c
  | .range first last => m.allowsInClass first && m.allowsInClass last
  | .named negated => if m.unicode then !m.ignoreCase else !negated
  | .lettered negated => !m.unicode && !negated
  | .bracketed negated inner => m.allowsClass inner && (m.unicode || !negated)
  | .union items => m.allowsClasses items
  | .combined left right => m.allowsClass left && m.allowsClass right

/-- Whether some classes are usable. -/
def Mode.allowsClasses (m : Mode) : List PatternClass → Bool
  | [] => true
  | item :: items => m.allowsClass item && m.allowsClasses items

end

mutual

/-- The mode after a usable pattern, given the mode before it. -/
def modeAfter (m : Mode) : Pattern → Option Mode
  | .literal c => if m.allowsChar c then some m else none
  | .dot => if m.unicode then some m else none
  | .lineEdge => some m
  | .wordEdge => if m.unicode then none else some m
  | .lettered negated => if m.unicode || negated then none else some m
  | .charClass c => if m.allowsClass c then some m else none
  | .flags fs => some (m.update fs)
  | .group fs inner => (modeAfter (m.update fs) inner).map fun _ => m
  | .repeated inner => modeAfter m inner
  | .sequence ps | .oneOf ps => modeAfterAll m ps

/-- The mode after usable patterns, one after another. -/
def modeAfterAll (m : Mode) : List Pattern → Option Mode
  | [] => some m
  | p :: ps => (modeAfter m p).bind fun m => modeAfterAll m ps

end

/-- The deepest nesting that is usable. -/
def maxDepth : Nat := 250

/-- Whether a pattern is usable. -/
def isUsable (p : Pattern) : Bool :=
  p.depth ≤ maxDepth && (modeAfter {} p).isSome

end Pattern

end CallPath
