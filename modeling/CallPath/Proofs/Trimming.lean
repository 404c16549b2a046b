import CallPath.Text.Blank
/-!
# White space at the ends

A text is its trimmed part with white space around it (`Text.exists_around`), and it is in that way
only (`Text.trimBlank_padded`).
-/

namespace CallPath.Text

/-- The text neither begins nor ends with white space. -/
structure IsTrimmed (cs : List Char) : Prop where
  head : ∀ c ∈ cs.head?, isBlank c = false
  last : ∀ c ∈ cs.getLast?, isBlank c = false

variable {pre cs post : List Char}

theorem head_dropWhile_isBlank (cs : List Char) : ∀ c ∈ (cs.dropWhile isBlank).head?, isBlank c = false := by
  intro c hc
  have hnot := List.head?_dropWhile_not isBlank cs
  rwa [Option.mem_def.1 hc] at hnot

theorem dropWhile_isBlank_of_head (h : ∀ c ∈ cs.head?, isBlank c = false) : cs.dropWhile isBlank = cs := by
  cases cs with
  | nil => rfl
  | cons c cs => exact List.dropWhile_cons_of_neg (by simp [h c rfl])

/-- White space around a text is cut off. -/
theorem trimBlank_padded (hpre : pre.all isBlank = true) (hpost : post.all isBlank = true) (hcs : IsTrimmed cs) :
    trimBlank (pre ++ cs ++ post) = cs := by
  cases cs with
  | nil =>
    rw [trimBlank_eq_nil_iff]
    simp [hpre, hpost]
  | cons c cs =>
    rw [List.all_eq_true] at hpre hpost
    have hhead : ∀ d ∈ (c :: cs ++ post).head?, isBlank d = false := hcs.head
    have hlast : ∀ d ∈ (c :: cs).reverse.head?, isBlank d = false := by
      rw [List.head?_reverse]
      exact hcs.last
    unfold trimBlank
    rw [List.append_assoc, List.dropWhile_append_of_pos hpre, dropWhile_isBlank_of_head hhead, List.reverse_append,
      List.dropWhile_append_of_pos (by simpa using hpost), dropWhile_isBlank_of_head hlast, List.reverse_reverse]

theorem trimBlank_around (hpre : pre.all isBlank = true) (hpost : post.all isBlank = true)
    (hcs : ∀ c ∈ cs, isBlank c = false) : trimBlank (pre ++ cs ++ post) = cs :=
  trimBlank_padded hpre hpost ⟨fun c hc => hcs c (List.mem_of_head? hc), fun c hc => hcs c (List.mem_of_getLast? hc)⟩

theorem exists_dropWhile_eq (cs : List Char) :
    ∃ post, post.all isBlank = true ∧ cs.dropWhile isBlank = trimBlank cs ++ post := by
  refine ⟨((cs.dropWhile isBlank).reverse.takeWhile isBlank).reverse, ?_, ?_⟩
  · rw [List.all_reverse]
    exact List.all_takeWhile
  · rw [trimBlank, ← List.reverse_append, List.takeWhile_append_dropWhile, List.reverse_reverse]

/-- A text is what trimming leaves of it, with white space around. -/
theorem exists_around (cs : List Char) :
    ∃ pre post, pre.all isBlank = true ∧ post.all isBlank = true ∧ cs = pre ++ trimBlank cs ++ post := by
  obtain ⟨post, hpost, hdrop⟩ := exists_dropWhile_eq cs
  refine ⟨cs.takeWhile isBlank, post, List.all_takeWhile, hpost, ?_⟩
  rw [List.append_assoc, ← hdrop, List.takeWhile_append_dropWhile]

theorem isTrimmed_trimBlank (cs : List Char) : IsTrimmed (trimBlank cs) where
  head := by
    obtain ⟨post, -, hdrop⟩ := exists_dropWhile_eq cs
    have hhead := head_dropWhile_isBlank cs
    rw [hdrop, List.head?_append] at hhead
    intro c hc
    exact hhead c (by simp [Option.mem_def.1 hc])
  last := by
    rw [trimBlank, List.getLast?_reverse]
    exact head_dropWhile_isBlank _

end CallPath.Text
