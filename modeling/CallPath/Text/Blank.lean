import CallPath.Text.CharSet
/-!
# White space

A character is blank if it has the Unicode property White_Space. Texts are trimmed of blank
characters at both ends, and a text that holds no other character counts as missing.
-/

namespace CallPath.Text

/-- The characters with the property White_Space. -/
def whiteSpace : CharSet where
  ranges := [(0x9, 0xd), (0x20, 0x20), (0x85, 0x85), (0xa0, 0xa0), (0x1680, 0x1680),
    (0x2000, 0x200a), (0x2028, 0x2029), (0x202f, 0x202f), (0x205f, 0x205f), (0x3000, 0x3000)]

/-- Whether the character is white space. -/
def isBlank (c : Char) : Bool :=
  whiteSpace.contains c

/-- A list of characters without the blank ones at its two ends. -/
def trimBlank (cs : List Char) : List Char :=
  ((cs.dropWhile isBlank).reverse.dropWhile isBlank).reverse

/-- The text without the white space at its two ends. -/
def trim (s : String) : String :=
  String.ofList (trimBlank s.toList)

/-- Whether the text holds nothing but white space. -/
def allBlank (s : String) : Bool :=
  s.toList.all isBlank

@[simp] theorem trimBlank_nil : trimBlank [] = [] := rfl

@[simp] theorem toList_trim (s : String) : (trim s).toList = trimBlank s.toList := by
  simp [trim]

theorem dropWhile_isBlank_eq_nil_iff {cs : List Char} :
    cs.dropWhile isBlank = [] ↔ cs.all isBlank = true := by
  induction cs with
  | nil => simp
  | cons c cs ih => by_cases h : isBlank c <;> simp_all

/-- Trimming leaves nothing exactly when there was nothing but white space. -/
theorem trimBlank_eq_nil_iff {cs : List Char} : trimBlank cs = [] ↔ cs.all isBlank = true := by
  have key : ∀ l : List Char, l.dropWhile isBlank = [] ∨ ∃ c t, l.dropWhile isBlank = c :: t ∧
      isBlank c = false := by
    intro l
    induction l with
    | nil => simp
    | cons c t ih => by_cases h : isBlank c <;> simp_all
  rw [← dropWhile_isBlank_eq_nil_iff]
  constructor
  · intro h
    rcases key cs with h' | ⟨c, t, h', hc⟩
    · exact h'
    · rw [trimBlank, List.reverse_eq_nil_iff, dropWhile_isBlank_eq_nil_iff, List.all_reverse,
        h'] at h
      simp [hc] at h
  · intro h
    simp [trimBlank, h]

end CallPath.Text
