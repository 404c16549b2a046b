import CallPath.Proofs.Actions
import CallPath.Proofs.Trimming
/-!
# Names of agents

A configured name is compared in lower case, when a configuration is checked and when its agent is chosen. The
choice looks past white space around the name, and the check does not. Case and white space have nothing to do with
each other (`Text.trim_toLower`), so every name that passes the check gets the agent it names; but there are names
that get the recording agent and do not pass (`Config.taken`).
-/

namespace CallPath

/-! ## Lower case leaves white space alone -/

namespace Text

/-- The code points of white space. -/
def blankPoints : List Nat :=
  whiteSpace.ranges.flatMap fun r => List.range' r.1 (r.2 + 1 - r.1)

variable {c : Char} {cs pre post before : List Char}

theorem isBlank_iff (c : Char) : isBlank c = true ↔ c.toNat ∈ blankPoints := by
  simp only [isBlank, CharSet.contains, blankPoints, List.any_eq_true, List.mem_flatMap, List.mem_range'_1,
    Bool.and_eq_true, decide_eq_true_eq]
  constructor
  · rintro ⟨r, hr, hfirst, hlast⟩
    exact ⟨r, hr, hfirst, by omega⟩
  · rintro ⟨r, hr, hfirst, hlast⟩
    exact ⟨r, hr, hfirst, by omega⟩

/-- White space has no case, and it is not skipped where one looks for a neighbour with case. -/
theorem caseless_of_isBlank (h : isBlank c = true) : lowerChar c = c ∧ c ≠ 'Σ' ∧ c ≠ 'İ' ∧
    caseIgnorable.contains c = false ∧ cased.contains c = false := by
  have all : ∀ n ∈ blankPoints, lowerChar (Char.ofNat n) = Char.ofNat n ∧ Char.ofNat n ≠ 'Σ' ∧ Char.ofNat n ≠ 'İ' ∧
      caseIgnorable.contains (Char.ofNat n) = false ∧ cased.contains (Char.ofNat n) = false := by
    decide +kernel
  have hc := all c.toNat ((isBlank_iff c).1 h)
  rwa [Char.ofNat_toNat] at hc

theorem isBlank_lowerChar (c : Char) : isBlank (lowerChar c) = isBlank c := by
  cases hc : isBlank c with
  | true => rw [(caseless_of_isBlank hc).1, hc]
  | false =>
    unfold lowerChar
    dsimp only
    split
    · rename_i r hr
      have hmem := List.mem_of_find?_eq_some hr
      have hrange : c.toNat ≤ r.last := by
        have hfound := List.find?_some hr
        simp only [Bool.and_eq_true, decide_eq_true_eq] at hfound
        exact hfound.1.2
      -- No run leads to white space.
      have all : ∀ r ∈ lowerRuns, ∀ n ∈ blankPoints, n < r.lower ∨ r.lower + (r.last - r.first) < n := by
        decide +kernel
      have hzero : 0 ∉ blankPoints := by decide
      have hpoint : ∀ n, (Char.ofNat n).toNat = n ∨ (Char.ofNat n).toNat = 0 := by
        intro n
        by_cases hn : n.isValidChar
        · left
          rw [Char.ofNat, dif_pos hn]
          rfl
        · right
          rw [Char.ofNat, dif_neg hn]
          rfl
      rw [Bool.eq_false_iff, Ne, isBlank_iff]
      rcases hpoint (r.lower + (c.toNat - r.first)) with h | h
      · rw [h]
        intro hn
        rcases all r hmem _ hn with h | h <;> omega
      · rw [h]
        exact hzero
    · exact hc

/-- Each character gives at least one, and all it gives are blank if it is. -/
theorem lowerAfter_cons (before : List Char) (c : Char) (cs : List Char) :
    ∃ here, here ≠ [] ∧ (∀ d ∈ here, isBlank d = isBlank c) ∧
      lowerAfter before (c :: cs) = here ++ lowerAfter (c :: before) cs := by
  refine ⟨_, ?_, ?_, rfl⟩
  · split
    · exact List.cons_ne_nil _ _
    · split <;> exact List.cons_ne_nil _ _
  · intro d hd
    split at hd
    · rename_i hc
      subst hc
      split at hd <;> rw [List.mem_singleton.1 hd] <;> decide
    · split at hd
      · rename_i hc
        subst hc
        simp only [List.mem_cons, List.not_mem_nil, or_false] at hd
        rcases hd with rfl | rfl <;> decide
      · rw [List.mem_singleton.1 hd, isBlank_lowerChar]

theorem startsCased_append (h : post.all isBlank = true) (cs : List Char) :
    startsCased (cs ++ post) = startsCased cs := by
  unfold startsCased
  induction cs with
  | nil =>
    cases post with
    | nil => rfl
    | cons b post =>
      obtain ⟨-, -, -, hignorable, hcased⟩ := caseless_of_isBlank (List.all_eq_true.1 h b List.mem_cons_self)
      rw [List.nil_append, List.dropWhile_cons_of_neg (by simp [hignorable])]
      exact hcased
  | cons c cs ih =>
    by_cases hc : caseIgnorable.contains c = true
    · rw [List.cons_append, List.dropWhile_cons_of_pos hc, List.dropWhile_cons_of_pos hc]
      exact ih
    · rw [List.cons_append, List.dropWhile_cons_of_neg hc, List.dropWhile_cons_of_neg hc]

theorem lowerAfter_blank (h : pre.all isBlank = true) (before cs : List Char) :
    lowerAfter before (pre ++ cs) = pre ++ lowerAfter (pre.reverse ++ before) cs := by
  induction pre generalizing before with
  | nil => rfl
  | cons b pre ih =>
    rw [List.all_cons, Bool.and_eq_true] at h
    obtain ⟨hlower, hsigma, hdotted, -⟩ := caseless_of_isBlank h.1
    rw [List.cons_append, lowerAfter, if_neg hsigma, if_neg hdotted, hlower, ih h.2, List.reverse_cons,
      List.append_assoc]
    rfl

theorem lowerAfter_append_blank (hpre : pre.all isBlank = true) (hpost : post.all isBlank = true)
    (before cs : List Char) : lowerAfter (before ++ pre) (cs ++ post) = lowerAfter before cs ++ post := by
  induction cs generalizing before with
  | nil => simpa [lowerAfter] using lowerAfter_blank hpost (before ++ pre) []
  | cons c cs ih =>
    have hrest := ih (c :: before)
    rw [List.cons_append] at hrest
    simp only [List.cons_append, lowerAfter, startsCased_append hpre, startsCased_append hpost, hrest,
      List.append_assoc]

/-- White space around a text stays where it is. -/
theorem lowerAfter_padded (hpre : pre.all isBlank = true) (hpost : post.all isBlank = true) (cs : List Char) :
    lowerAfter [] (pre ++ cs ++ post) = pre ++ lowerAfter [] cs ++ post := by
  have hreverse : pre.reverse.all isBlank = true := by simpa using hpre
  have hinner := lowerAfter_append_blank hreverse hpost [] cs
  rw [List.nil_append] at hinner
  rw [List.append_assoc, lowerAfter_blank hpre, List.append_nil, hinner, List.append_assoc]

theorem isBlank_getLast_lowerAfter (before cs : List Char) :
    ∀ d ∈ (lowerAfter before cs).getLast?, ∃ c ∈ cs.getLast?, isBlank d = isBlank c := by
  induction cs generalizing before with
  | nil => nofun
  | cons c cs ih =>
    obtain ⟨here, -, hblank, hlower⟩ := lowerAfter_cons before c cs
    rw [hlower]
    cases cs with
    | nil =>
      intro d hd
      rw [lowerAfter, List.append_nil] at hd
      exact ⟨c, rfl, hblank d (List.mem_of_getLast? hd)⟩
    | cons c' cs =>
      obtain ⟨here', hne, -, hlower'⟩ := lowerAfter_cons (c :: before) c' cs
      have hne' : lowerAfter (c :: before) (c' :: cs) ≠ [] := by
        rw [hlower']
        exact List.append_ne_nil_of_left_ne_nil hne _
      rw [List.getLast?_append_of_ne_nil _ hne', List.getLast?_cons_cons]
      exact ih (c :: before)

theorem IsTrimmed.lowerAfter (h : IsTrimmed cs) (before : List Char) : IsTrimmed (lowerAfter before cs) where
  head := by
    cases cs with
    | nil => nofun
    | cons c cs =>
      obtain ⟨here, hne, hblank, hlower⟩ := lowerAfter_cons before c cs
      obtain ⟨d, here, rfl⟩ := List.exists_cons_of_ne_nil hne
      rw [hlower]
      rintro _ ⟨⟩
      rw [hblank d List.mem_cons_self]
      exact h.head c rfl
  last d hd := by
    obtain ⟨c, hc, e⟩ := isBlank_getLast_lowerAfter before cs d hd
    rw [e]
    exact h.last c hc

theorem trimBlank_lowerAfter (cs : List Char) : trimBlank (lowerAfter [] cs) = lowerAfter [] (trimBlank cs) := by
  obtain ⟨pre, post, hpre, hpost, hcs⟩ := exists_around cs
  have htrimmed := (isTrimmed_trimBlank cs).lowerAfter []
  rw [hcs, lowerAfter_padded hpre hpost, trimBlank_padded hpre hpost htrimmed, ← hcs]

/-- It does not matter whether a text is trimmed before or afterwards. -/
theorem trim_toLower (s : String) : trim (toLower s) = toLower (trim s) := by
  rw [trim, toLower, toLower, toList_trim, String.toList_ofList, trimBlank_lowerAfter]

/-- There is as much white space around a text in lower case as there was before. -/
theorem trim_eq_of_toLower {s : String} (h : trim (toLower s) = toLower s) : trim s = s := by
  obtain ⟨pre, post, hpre, hpost, hs⟩ := exists_around s.toList
  have hlower : lowerAfter [] (trimBlank s.toList) = pre ++ lowerAfter [] (trimBlank s.toList) ++ post := by
    rw [← lowerAfter_padded hpre hpost, ← hs, ← trimBlank_lowerAfter]
    simpa [toLower] using congrArg String.toList h
  have hlength := congrArg List.length hlower
  simp only [List.length_append] at hlength
  obtain rfl : pre = [] := List.length_eq_zero_iff.1 (by omega)
  obtain rfl : post = [] := List.length_eq_zero_iff.1 (by omega)
  rw [List.nil_append, List.append_nil] at hs
  rw [trim, ← hs, String.ofList_toList]

end Text

/-! ## Checking and choosing -/

namespace Config

theorem name_agentFor (name : String) :
    (agentFor name).name = if Text.toLower (Text.trim name) = "mock" then "mock" else "null" := by
  unfold agentFor
  split <;> rfl

theorem name_agentFor_eq_mock {name : String} :
    (agentFor name).name = "mock" ↔ Text.toLower (Text.trim name) = "mock" := by
  rw [name_agentFor]
  split <;> simp_all

variable {c : Config}

/-- With everything else in order, the check is about the name. -/
theorem validate_agent (h : c.validate = .ok ()) (name : String) : { c with agent := name }.validate =
    if Text.toLower name ∈ agentNames then .ok ()
    else .error (.invalid s!"Invalid agent: {name}. Must be one of: {Text.quotedList agentNames}") := by
  unfold validate at h ⊢
  dsimp only at h ⊢
  split at h
  · cases h
  · rename_i hlevel
    rw [if_neg hlevel]
    split at h
    · cases h
    · split at h
      · cases h
      · by_cases hname : Text.toLower name ∈ agentNames
        · rw [if_pos hname, if_neg (not_not.2 hname)]
          rfl
        · rw [if_neg hname, if_pos hname]
          rfl

end Config

/-- The agent that is in effect for a user who comes with a configuration. -/
def Application.agentOfUser (app : Application) (c : Config) : Agent :=
  let app' := (app.acquireConfigured c).2
  (app'.get app'.shared).agent

/-- The first user gets the agent that was chosen. -/
theorem Application.name_agentOfUser {app : Application} (h : app.users = 0) (c : Config) :
    (app.agentOfUser c).name = (Config.agentFor c.agent).name := by
  obtain ⟨events, hacquire⟩ := acquire_first h (Config.agentFor c.agent) c.options c.settings
  unfold agentOfUser acquireConfigured
  rw [hacquire]
  dsimp only [shared, Option.getD_some]
  rw [get_openedSession]
  unfold Config.agentFor
  split <;> rfl

namespace Config

variable {c : Config}

/-- How the check and the choice of an agent take a name, if everything else in the configuration is in order. -/
structure Taken (c : Config) (name : String) : Prop where
  /-- The check compares the name in lower case. -/
  valid_iff : { c with agent := name }.validate = .ok () ↔ Text.toLower name ∈ agentNames
  /-- A name that passes is the name of the agent that is chosen. -/
  named : { c with agent := name }.validate = .ok () → (agentFor name).name = Text.toLower name
  /-- A name gets the recording agent if it passes as that agent's, or if it would without the white space around. -/
  recording_iff : (agentFor name).name = "mock" ↔
    ({ c with agent := name }.validate = .ok () ∧ Text.toLower name = "mock") ∨
      (Text.trim name ≠ name ∧ Text.toLower (Text.trim name) = "mock")
  /-- Then it does not pass. -/
  refused : Text.trim name ≠ name → Text.toLower (Text.trim name) = "mock" → { c with agent := name }.validate =
    .error (.invalid s!"Invalid agent: {name}. Must be one of: {Text.quotedList agentNames}")
  /-- What is chosen is what the first user gets. -/
  opened : ∀ app : Application, app.users = 0 →
    (app.agentOfUser { c with agent := name }).name = (agentFor name).name

/-- A name that is trimmed in lower case was trimmed before. -/
theorem trim_of_mem_agentNames {name : String} (h : Text.toLower name ∈ agentNames) : Text.trim name = name := by
  refine Text.trim_eq_of_toLower ?_
  have all : ∀ s ∈ agentNames, Text.trim s = s := by decide +kernel
  exact all _ h

/-- The check and the choice agree on a name, except on names of the recording agent with white space around. -/
theorem taken (h : c.validate = .ok ()) (name : String) : c.Taken name := by
  have hvalid : { c with agent := name }.validate = .ok () ↔ Text.toLower name ∈ agentNames := by
    rw [validate_agent h]
    split <;> simp_all
  refine ⟨hvalid, fun hname => ?_, ?_, fun htrim _ => ?_, fun app happ => Application.name_agentOfUser happ _⟩
  · have hmem := hvalid.1 hname
    rw [name_agentFor, trim_of_mem_agentNames hmem]
    simp only [agentNames, List.mem_cons, List.not_mem_nil, or_false] at hmem
    rcases hmem with e | e <;> simp [e]
  · rw [name_agentFor_eq_mock, hvalid]
    by_cases htrim : Text.trim name = name
    · rw [htrim]
      constructor
      · intro e
        exact .inl ⟨by simp [e, agentNames], e⟩
      · rintro (⟨-, e⟩ | ⟨hne, -⟩)
        · exact e
        · exact absurd rfl hne
    · constructor
      · intro e
        exact .inr ⟨htrim, e⟩
      · rintro (⟨hmem, -⟩ | ⟨-, e⟩)
        · exact absurd (trim_of_mem_agentNames hmem) htrim
        · exact e
  · rw [validate_agent h, if_neg fun hmem => htrim (trim_of_mem_agentNames hmem)]

/-- The Kelvin sign is a capital K; white space makes the name one that does not pass. -/
theorem taken_kelvinSign :
    let c : Config := { logLevel := "WARN", options := ["tenant=abc"] }
    let kelvin := "Moc\u212a"
    let padded := "\u3000moc\u212a\n"
    c.validate = .ok () ∧ c.Taken kelvin ∧ c.Taken padded ∧
      { c with agent := kelvin }.validate = .ok () ∧ (agentFor kelvin).name = "mock" ∧
      { c with agent := padded }.validate ≠ .ok () ∧ (agentFor padded).name = "mock" := by
  intro c kelvin padded
  have h : c.validate = .ok () := by decide +kernel
  exact ⟨h, taken h kelvin, taken h padded, by decide +kernel, by decide +kernel, by decide +kernel, by decide +kernel⟩

/-- Such a name gets the recording agent, which the check would not let it have. -/
theorem agentFor_paddedMock :
    let c : Config := { agent := " mock " }
    ({} : Config).validate = .ok () ∧ c.validate ≠ .ok () ∧ Text.toLower c.agent ≠ "mock" ∧
      (agentFor c.agent).name = "mock" ∧ (({} : Application).agentOfUser c).name = "mock" := by
  decide +kernel

end Config

end CallPath
