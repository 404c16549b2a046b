import CallPath.Text.Letters
/-!
# Lower case

Lower-casing follows Unicode's full mapping. Two characters are special: the dotted capital I
becomes two characters, and a capital sigma becomes a final sigma at the end of a word, that is,
if the nearest character before it that is not case-ignorable has case and the nearest such
character after it has none.
-/

namespace CallPath.Text

/-- The simple lower-case mapping of a character; a character outside the table is its own. -/
def lowerChar (c : Char) : Char :=
  let n := c.toNat
  match lowerRuns.find? fun r => r.first ≤ n && n ≤ r.last && (n - r.first) % r.stride == 0 with
  | some r => Char.ofNat (r.lower + (n - r.first))
  | none => c

/-- Whether the first character that is not case-ignorable has case. -/
def startsCased (cs : List Char) : Bool :=
  match cs.dropWhile caseIgnorable.contains with
  | [] => false
  | c :: _ => cased.contains c

/-- Lower case of the characters `rest`, where `before` are those in front, nearest first. -/
def lowerAfter (before : List Char) : List Char → List Char
  | [] => []
  | c :: rest =>
    let here :=
      if c = 'Σ' then [if startsCased before && !startsCased rest then 'ς' else 'σ']
      else if c = 'İ' then ['i', Char.ofNat 0x307]
      else [lowerChar c]
    here ++ lowerAfter (c :: before) rest

/-- The text in lower case. -/
def toLower (s : String) : String :=
  String.ofList (lowerAfter [] s.toList)

end CallPath.Text
