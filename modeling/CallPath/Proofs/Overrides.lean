import CallPath.Config.Overrides
import CallPath.Proofs.Trimming
/-!
# Overrides

A list of options in a variable is made of pieces with commas between them: options with white space around
them, and pieces of nothing but white space. Every text is such a list (`Config.exists_listing`), and it is read
as the options that are in it (`Config.splitOptions_listing`). A configuration that was overridden stays as it
is when the same variables are applied again; a variable that is set takes effect, and one that is not set
changes nothing (`Config.overridden`).
-/

namespace CallPath.Config

/-! ## Lists with commas -/

theorem splitAt_eq_splitOn (sep : Char) (cs : List Char) : splitAt sep cs = cs.splitOn sep := by
  induction cs with
  | nil => rfl
  | cons c cs ih =>
    rw [splitAt, List.splitOn_cons_eq_if_modifyHead, ih]
    by_cases hc : c = sep
    · simp [hc]
    · rw [if_neg hc, if_neg (by simpa using hc)]
      cases hpieces : cs.splitOn sep with
      | nil => exact absurd hpieces (List.splitOn_ne_nil _ _)
      | cons piece pieces => rfl

/-- No piece has the separator in it. -/
theorem sep_not_mem {sep : Char} {cs piece : List Char} (h : piece ∈ splitAt sep cs) : sep ∉ piece := by
  induction cs generalizing piece with
  | nil =>
    rw [List.mem_singleton.1 h]
    exact List.not_mem_nil
  | cons c cs ih =>
    unfold splitAt at h
    split at h
    · rcases List.mem_cons.1 h with rfl | h
      · exact List.not_mem_nil
      · exact ih h
    · rename_i hc
      split at h
      · rw [List.mem_singleton.1 h, List.mem_singleton]
        exact Ne.symm hc
      · rename_i first rest hpieces
        rw [hpieces] at ih
        rcases List.mem_cons.1 h with rfl | h
        · rw [List.mem_cons, not_or]
          exact ⟨Ne.symm hc, ih List.mem_cons_self⟩
        · exact ih (List.mem_cons_of_mem _ h)

/-- An option that can stand in a list. -/
structure IsListable (option : String) : Prop where
  ne_empty : option ≠ ""
  no_comma : ',' ∉ option.toList
  trimmed : Text.IsTrimmed option.toList

/-- What stands between two commas. -/
inductive Piece where
  | blank (space : String)
  | item (before option after : String)

namespace Piece

def text : Piece → String
  | blank space => space
  | item before option after => before ++ option ++ after

/-- The option that the piece holds. -/
def option? : Piece → Option String
  | blank _ => none
  | item _ option _ => some option

/-- The piece is white space, but for an option that can stand in a list. -/
def IsProper : Piece → Prop
  | blank space => Text.allBlank space = true
  | item before option after => Text.allBlank before = true ∧ Text.allBlank after = true ∧ IsListable option

variable {p : Piece}

theorem comma_not_mem_of_allBlank {s : String} (h : Text.allBlank s = true) : ',' ∉ s.toList := by
  intro hmem
  have hblank : Text.isBlank ',' = true := List.all_eq_true.1 h ',' hmem
  revert hblank
  decide

theorem IsProper.no_comma (h : p.IsProper) : ',' ∉ p.text.toList := by
  cases p with
  | blank space => exact comma_not_mem_of_allBlank h
  | item before option after =>
    obtain ⟨hbefore, hafter, hoption⟩ := h
    simp only [text, String.toList_append, List.mem_append, not_or]
    exact ⟨⟨comma_not_mem_of_allBlank hbefore, hoption.no_comma⟩, comma_not_mem_of_allBlank hafter⟩

/-- Trimming leaves the option, if there is one. -/
theorem IsProper.trimBlank_text (h : p.IsProper) : Text.trimBlank p.text.toList = (p.option?.getD "").toList := by
  cases p with
  | blank space => exact Text.trimBlank_eq_nil_iff.2 h
  | item before option after =>
    obtain ⟨hbefore, hafter, hoption⟩ := h
    simp only [text, String.toList_append]
    exact Text.trimBlank_padded hbefore hafter hoption.trimmed

/-- Whatever stands between two commas is a piece. -/
theorem exists_text_eq {cs : List Char} (h : ',' ∉ cs) : ∃ p : Piece, p.IsProper ∧ p.text.toList = cs := by
  obtain ⟨pre, post, hpre, hpost, hcs⟩ := Text.exists_around cs
  by_cases hnil : Text.trimBlank cs = []
  · refine ⟨.blank (.ofList cs), ?_, String.toList_ofList⟩
    rw [IsProper, Text.allBlank, String.toList_ofList]
    exact Text.trimBlank_eq_nil_iff.1 hnil
  · have hcomma : ',' ∉ Text.trimBlank cs := by
      intro hmem
      rw [hcs] at h
      exact h (by simp [hmem])
    refine ⟨.item (.ofList pre) (.ofList (Text.trimBlank cs)) (.ofList post), ⟨?_, ?_, ?_, ?_, ?_⟩, ?_⟩
    · rwa [Text.allBlank, String.toList_ofList]
    · rwa [Text.allBlank, String.toList_ofList]
    · intro he
      exact hnil (by simpa using congrArg String.toList he)
    · rwa [String.toList_ofList]
    · rw [String.toList_ofList]
      exact Text.isTrimmed_trimBlank cs
    · simp only [text, String.toList_append, String.toList_ofList]
      exact hcs.symm

end Piece

/-- Pieces with commas between them. -/
def listing (pieces : List Piece) : String :=
  ",".intercalate (pieces.map Piece.text)

theorem toList_listing (pieces : List Piece) :
    (listing pieces).toList = [','].intercalate (pieces.map fun p => p.text.toList) := by
  rw [listing, String.toList_intercalate, List.map_map]
  rfl

theorem splitAt_listing {pieces : List Piece} (h : ∀ p ∈ pieces, p.IsProper) (hne : pieces ≠ []) :
    splitAt ',' (listing pieces).toList = pieces.map fun p => p.text.toList := by
  rw [splitAt_eq_splitOn, toList_listing]
  refine List.splitOn_intercalate ',' ?_ (by simpa using hne)
  intro cs hcs
  obtain ⟨p, hp, rfl⟩ := List.mem_map.1 hcs
  exact (h p hp).no_comma

/-- A list is read as the options that are in it. -/
theorem splitOptions_listing {pieces : List Piece} (h : ∀ p ∈ pieces, p.IsProper) :
    splitOptions (listing pieces) = pieces.filterMap Piece.option? := by
  by_cases hne : pieces = []
  · subst hne
    decide
  · unfold splitOptions
    rw [splitAt_listing h hne, List.map_map]
    clear hne
    induction pieces with
    | nil => rfl
    | cons p pieces ih =>
      obtain ⟨hp, hpieces⟩ := List.forall_mem_cons.1 h
      have hrest := ih hpieces
      rw [List.map_cons, Function.comp_apply, hp.trimBlank_text]
      cases p with
      | blank space =>
        rw [List.filterMap_cons_none rfl, List.filter_cons_of_neg (by simp [Piece.option?])]
        exact hrest
      | item before option after =>
        have hnil : option.toList ≠ [] := by simpa using hp.2.2.ne_empty
        have hitem : (Piece.item before option after).option? = some option := rfl
        rw [List.filterMap_cons_some hitem, hitem, Option.getD_some, List.filter_cons_of_pos (by simpa using hnil),
          List.map_cons, hrest, String.ofList_toList]

/-- Every text is a list. -/
theorem exists_listing (text : String) :
    ∃ pieces : List Piece, (∀ p ∈ pieces, p.IsProper) ∧ text = listing pieces := by
  have hall : ∀ l : List (List Char), (∀ cs ∈ l, ',' ∉ cs) →
      ∃ pieces : List Piece, (∀ p ∈ pieces, p.IsProper) ∧ (pieces.map fun p => p.text.toList) = l := by
    intro l hl
    induction l with
    | nil => exact ⟨[], by simp, rfl⟩
    | cons cs l ih =>
      obtain ⟨hcs, hrest⟩ := List.forall_mem_cons.1 hl
      obtain ⟨p, hp, rfl⟩ := Piece.exists_text_eq hcs
      obtain ⟨pieces, hpieces, rfl⟩ := ih hrest
      exact ⟨p :: pieces, List.forall_mem_cons.2 ⟨hp, hpieces⟩, rfl⟩
  obtain ⟨pieces, hpieces, hl⟩ := hall (splitAt ',' text.toList) fun _ => sep_not_mem
  refine ⟨pieces, hpieces, String.toList_injective ?_⟩
  rw [toList_listing, hl, splitAt_eq_splitOn, List.intercalate_splitOn]

theorem isListable_of_mem {text option : String} (h : option ∈ splitOptions text) : IsListable option := by
  obtain ⟨pieces, hpieces, rfl⟩ := exists_listing text
  rw [splitOptions_listing hpieces] at h
  obtain ⟨p, hp, hoption⟩ := List.mem_filterMap.1 h
  cases p with
  | blank space => cases hoption
  | item before option after =>
    cases hoption
    exact (hpieces _ hp).2.2

/-! ## Overriding -/

/-- What variables make of a configuration. -/
structure Overridden (c : Config) (lookup : String → Option String) : Prop where
  idempotent : (c.override lookup).override lookup = c.override lookup
  logLevel : lookup "TRACEPATH_LOG_LEVEL" = none → (c.override lookup).logLevel = c.logLevel
  agent : lookup "TRACEPATH_AGENT" = none → (c.override lookup).agent = c.agent
  options : lookup "TRACEPATH_OPTIONS" = none → (c.override lookup).options = c.options
  /-- A flag is left alone also by what is neither of the two truth values. -/
  leakWarnings : lookup "TRACEPATH_LEAK_WARNINGS" ∉ [some "true", some "false"] →
    (c.override lookup).settings.leakWarnings = c.settings.leakWarnings
  retainCompletedPaths : lookup "TRACEPATH_RETAIN_PATHS" ∉ [some "true", some "false"] →
    (c.override lookup).settings.retainCompletedPaths = c.settings.retainCompletedPaths
  newLogLevel : ∀ text, lookup "TRACEPATH_LOG_LEVEL" = some text → (c.override lookup).logLevel = text
  /-- A name is taken without the white space around it, and in lower case. -/
  newAgent : ∀ before name after, Text.allBlank before = true → Text.allBlank after = true →
    Text.IsTrimmed name.toList → lookup "TRACEPATH_AGENT" = some (before ++ name ++ after) →
    (c.override lookup).agent = Text.toLower name
  newLeakWarnings : ∀ b : Bool, lookup "TRACEPATH_LEAK_WARNINGS" = some (toString b) →
    (c.override lookup).settings.leakWarnings = b
  newRetainCompletedPaths : ∀ b : Bool, lookup "TRACEPATH_RETAIN_PATHS" = some (toString b) →
    (c.override lookup).settings.retainCompletedPaths = b
  /-- There is no variable for it. -/
  logCompletedPaths : (c.override lookup).settings.logCompletedPaths = c.settings.logCompletedPaths
  listable : ∀ text, lookup "TRACEPATH_OPTIONS" = some text → ∀ option ∈ (c.override lookup).options, IsListable option
  /-- Options with white space around them, and pieces without any, in any order. -/
  listed : ∀ pieces : List Piece, (∀ p ∈ pieces, p.IsProper) →
    lookup "TRACEPATH_OPTIONS" = some (listing pieces) → (c.override lookup).options = pieces.filterMap Piece.option?

/-- What a variable gave is not changed by the same variable again. -/
theorem getD_getD {α : Type} (v : Option α) (a : α) : v.getD (v.getD a) = v.getD a := by
  cases v <;> rfl

theorem flag?_eq_none {v : Option String} (h : v ∉ [some "true", some "false"]) : v.bind flag? = none := by
  cases v with
  | none => rfl
  | some text =>
    simp only [List.mem_cons, Option.some.injEq, List.not_mem_nil, or_false, not_or] at h
    simp [flag?, h.1, h.2]

theorem flag?_toString (b : Bool) : flag? (toString b) = some b := by
  cases b <;> rfl

theorem trim_padded {before name after : String} (hbefore : Text.allBlank before = true)
    (hafter : Text.allBlank after = true) (hname : Text.IsTrimmed name.toList) :
    Text.trim (before ++ name ++ after) = name := by
  rw [Text.trim, String.toList_append, String.toList_append, Text.trimBlank_padded hbefore hafter hname,
    String.ofList_toList]

theorem options_override {c : Config} {lookup : String → Option String} {text : String}
    (h : lookup "TRACEPATH_OPTIONS" = some text) : (c.override lookup).options = splitOptions text := by
  simp only [override, h]
  rfl

/-- Variables change what they name and nothing else, once and for all; the options that a variable lists are
read as they are written. -/
theorem overridden (c : Config) (lookup : String → Option String) : c.Overridden lookup where
  idempotent := by
    unfold override
    simp only [getD_getD]
  logLevel h := by simp only [override, h, Option.getD_none]
  agent h := by simp only [override, h, Option.map_none, Option.getD_none]
  options h := by simp only [override, h, Option.map_none, Option.getD_none]
  leakWarnings h := by simp only [override, flag?_eq_none h, Option.getD_none]
  retainCompletedPaths h := by simp only [override, flag?_eq_none h, Option.getD_none]
  newLogLevel text h := by simp only [override, h, Option.getD_some]
  newAgent before name after hbefore hafter hname h := by
    simp only [override, h, Option.map_some, Option.getD_some, trim_padded hbefore hafter hname]
  newLeakWarnings b h := by simp only [override, h, Option.bind_some, flag?_toString, Option.getD_some]
  newRetainCompletedPaths b h := by simp only [override, h, Option.bind_some, flag?_toString, Option.getD_some]
  logCompletedPaths := rfl
  listable text h option hoption := by
    rw [options_override h] at hoption
    exact isListable_of_mem hoption
  listed pieces hpieces h := by
    rw [options_override h]
    exact splitOptions_listing hpieces

/-- Two options with blanks of all sorts in between, a flag that is not spelled as one, and one that is. -/
theorem overridden_blankPieces :
    let c : Config := { logLevel := "warn", options := ["old=1"], settings := { leakWarnings := false } }
    let pieces : List Piece :=
      [.blank "", .item " " "a=1" "\u3000", .blank "\t ", .blank "", .item "" "b = 2" "\n", .blank " "]
    let lookup : String → Option String := fun name =>
      if name = "TRACEPATH_OPTIONS" then some (listing pieces)
      else if name = "TRACEPATH_LEAK_WARNINGS" then some "True"
      else if name = "TRACEPATH_RETAIN_PATHS" then some "false" else none
    (∀ p ∈ pieces, p.IsProper) ∧ c.Overridden lookup ∧ (c.override lookup).options = ["a=1", "b = 2"] ∧
      (c.override lookup).logLevel = "warn" ∧ (c.override lookup).settings.leakWarnings = false ∧
      c.settings.retainCompletedPaths = true ∧ (c.override lookup).settings.retainCompletedPaths = false := by
  intro c pieces lookup
  have hproper : ∀ p ∈ pieces, p.IsProper := by
    have htrimmed : ∀ option ∈ ["a=1", "b = 2"], Text.IsTrimmed option.toList := by
      intro option hoption
      have hall : ∀ option ∈ ["a=1", "b = 2"], Text.trimBlank option.toList = option.toList := by decide
      rw [← hall option hoption]
      exact Text.isTrimmed_trimBlank _
    have ha : IsListable "a=1" := ⟨by decide, by decide, htrimmed _ (by decide)⟩
    have hb : IsListable "b = 2" := ⟨by decide, by decide, htrimmed _ (by decide)⟩
    simp only [pieces, List.forall_mem_cons, Piece.IsProper, ha, hb]
    exact ⟨by decide, by decide, by decide, by decide, by decide, by decide, nofun⟩
  have h := overridden c lookup
  exact ⟨hproper, h, h.listed pieces hproper rfl, h.logLevel rfl, h.leakWarnings (by decide), rfl,
    h.newRetainCompletedPaths false rfl⟩

end CallPath.Config
