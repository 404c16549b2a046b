import CallPath.Forest.Retention
import CallPath.Forest.Traversal
import CallPath.Proofs.Nesting
import CallPath.Proofs.Operations
/-!
# Nodes that hold each other

A node holds the nodes nested in it and those linked to it through tags. A dump follows both kinds
of links, and without a bound on its depth it comes to an end at every node exactly if there is no
cycle (`isAcyclic_iff_drawn`). Then the bound of `dump` is no limit (`IsAcyclic.drawn_iff`), and a node
is kept only as long as a chain of links leads to it from what is held outside
(`IsAcyclic.mem_kept_iff`).
-/

namespace CallPath.Forest

/-- `c` is linked from `p`, by nesting or through a tag. -/
def Holds (f : Forest) (p c : NodeRef) : Prop :=
  ∃ kind, (kind, c) ∈ (f.get p).children

/-- No chain of links comes back to where it began. -/
def IsAcyclic (f : Forest) : Prop :=
  ∀ n, ¬ Relation.TransGen f.Holds n n

variable {f : Forest} {n p c : NodeRef} {roots : List NodeRef}

theorem Nests.holds (h : f.Nests p c) : f.Holds p c :=
  ⟨.child, nests_iff.1 h⟩

theorem holds_iff : f.Holds p c ↔ f.Nests p c ∨ c ∈ (f.get p).tagLinkedRefs := by
  constructor
  · rintro ⟨kind, hc⟩
    cases kind with
    | child => exact .inl (nests_iff.2 hc)
    | tagLinked => exact .inr (List.mem_map.2 ⟨_, List.mem_filter.2 ⟨hc, by simp⟩, rfl⟩)
  · rintro (h | h)
    · exact h.holds
    · obtain ⟨⟨kind, c⟩, hc, rfl⟩ := List.mem_map.1 h
      exact ⟨kind, (List.mem_filter.1 hc).1⟩

theorem lt_size_of_holds (h : f.Holds p c) : p < f.size := by
  by_contra hlt
  obtain ⟨kind, hc⟩ := h
  rw [get_of_size_le (Nat.le_of_not_lt hlt)] at hc
  cases hc

/-- A chain of links is no longer than the forest is large. -/
theorem IsAcyclic.chain_length_le (h : f.IsAcyclic) {l : List NodeRef} (hl : (n :: l).IsChain f.Holds) :
    l.length ≤ f.size :=
  length_le_of_isChain h (fun _ _ => lt_size_of_holds) hl

/-! ## Dumps -/

/-- The lines of a dump that nothing bounds. There are none if it does not end. -/
inductive Drawn (f : Forest) : (indent : String) → NodeRef → List String → Prop
  | node {indent : String} {n : NodeRef} (below : NodeRef → List String)
      (h : ∀ kind c, (kind, c) ∈ (f.get n).children → Drawn f (indent ++ "  ") c (below c)) :
      Drawn f indent n (f.dumpTo 0 indent n ++
        (f.get n).children.flatMap fun (kind, c) => (indent ++ " " ++ kind.name) :: below c)

theorem dumpTo_succ (f : Forest) (d : Nat) (indent : String) (n : NodeRef) :
    f.dumpTo (d + 1) indent n = f.dumpTo 0 indent n ++
      (f.get n).children.flatMap fun (kind, c) => (indent ++ " " ++ kind.name) :: f.dumpTo d (indent ++ "  ") c := by
  simp [dumpTo]

/-- A dump that is as deep as the links go shows all of them. -/
theorem drawn_dumpTo {d : Nat} (indent : String) (h : ∀ l, (n :: l).IsChain f.Holds → l.length ≤ d) :
    f.Drawn indent n (f.dumpTo d indent n) := by
  induction d generalizing n indent with
  | zero =>
    have hnone : (f.get n).children = [] := by
      refine List.eq_nil_iff_forall_not_mem.2 ?_
      rintro ⟨kind, c⟩ hc
      have hlength := h [c] (List.isChain_pair.2 ⟨kind, hc⟩)
      simp at hlength
    have hdrawn : f.Drawn indent n _ := .node (fun _ => []) (by simp [hnone])
    simpa [hnone] using hdrawn
  | succ d ih =>
    rw [dumpTo_succ]
    refine .node (fun c => f.dumpTo d (indent ++ "  ") c) ?_
    intro kind c hc
    refine ih (indent ++ "  ") ?_
    intro l hl
    have hlength := h (c :: l) (List.isChain_cons_cons.2 ⟨⟨kind, hc⟩, hl⟩)
    simpa using hlength

theorem Drawn.unique {indent : String} {lines lines' : List String} (h : f.Drawn indent n lines)
    (h' : f.Drawn indent n lines') : lines = lines' := by
  induction h generalizing lines' with
  | node below _ ih =>
    cases h' with
    | node below' h' =>
      refine congrArg _ (List.flatMap_congr ?_)
      rintro ⟨kind, c⟩ hc
      exact congrArg _ (ih kind c hc (h' kind c hc))

/-- A dump that ends has met no cycle. -/
theorem Drawn.not_cycle {indent : String} {lines : List String} (h : f.Drawn indent n lines) :
    ¬ Relation.TransGen f.Holds n n := by
  induction h with
  | node _ _ ih => exact not_transGen_self fun c ⟨kind, hc⟩ => ih kind c hc

theorem IsAcyclic.drawn_iff (h : f.IsAcyclic) {indent : String} {lines : List String} :
    f.Drawn indent n lines ↔ lines = f.dumpTo f.size indent n := by
  have hdrawn := drawn_dumpTo (n := n) indent fun l hl => h.chain_length_le hl
  constructor
  · exact fun hlines => hlines.unique hdrawn
  · rintro rfl
    exact hdrawn

theorem isAcyclic_iff_drawn : f.IsAcyclic ↔ ∀ n, ∃ lines, f.Drawn "" n lines := by
  constructor
  · exact fun h n => ⟨_, h.drawn_iff.2 rfl⟩
  · intro h n hn
    obtain ⟨lines, hlines⟩ := h n
    exact hlines.not_cycle hn

/-! ## What keeps a node -/

theorem isHeldBy_iff {holders : List NodeRef} : f.isHeldBy roots holders n = true ↔
    n ∈ roots ∨ ∃ m ∈ holders, f.Holds m n := by
  simp [isHeldBy, Holds]

/-- Nodes that hold each other, down from the roots, are never dropped. -/
theorem mem_dropUnheld {P : NodeRef → Prop} (hP : ∀ n, P n → n ∈ roots ∨ ∃ m, P m ∧ f.Holds m n) (rounds : Nat)
    (kept : List NodeRef) (hk : ∀ n, P n → n ∈ kept) : ∀ n, P n → n ∈ f.dropUnheld roots rounds kept := by
  induction rounds generalizing kept with
  | zero => exact hk
  | succ rounds ih =>
    unfold dropUnheld
    dsimp only
    split
    · exact hk
    · apply ih
      intro n hn
      refine List.mem_filter.2 ⟨hk n hn, isHeldBy_iff.2 ?_⟩
      exact (hP n hn).imp_right fun ⟨m, hm, hmn⟩ => ⟨m, hk m hm, hmn⟩

theorem dropUnheld_subset (f : Forest) (roots : List NodeRef) (rounds : Nat) (kept : List NodeRef) :
    f.dropUnheld roots rounds kept ⊆ kept := by
  induction rounds generalizing kept with
  | zero => exact List.Subset.refl _
  | succ rounds ih =>
    unfold dropUnheld
    dsimp only
    split
    · exact List.Subset.refl _
    · exact fun n hn => (List.mem_filter.1 (ih _ hn)).1

/-- After as many rounds as there are nodes, every node that is left is held. -/
theorem held_of_mem_dropUnheld {rounds : Nat} {kept : List NodeRef} (hk : kept.length ≤ rounds) :
    ∀ n ∈ f.dropUnheld roots rounds kept, f.isHeldBy roots (f.dropUnheld roots rounds kept) n = true := by
  induction rounds generalizing kept with
  | zero =>
    obtain rfl := List.length_eq_zero_iff.1 (Nat.le_zero.1 hk)
    simp [dropUnheld]
  | succ rounds ih =>
    unfold dropUnheld
    dsimp only
    split
    · rename_i h
      exact List.length_filter_eq_length_iff.1 h
    · rename_i h
      have hle := List.length_filter_le (f.isHeldBy roots kept) kept
      exact ih (by omega)

/-- What is linked from a root, directly or not, is kept. -/
theorem mem_kept_of_holds {r : NodeRef} (hr : r ∈ roots) (hb : Relation.ReflTransGen f.Holds r n) (hn : n < f.size) :
    n ∈ f.kept roots := by
  refine mem_dropUnheld (P := fun n => Relation.ReflTransGen f.Holds r n ∧ n < f.size) ?_ _ _ ?_ n ⟨hb, hn⟩
  · intro n hn
    rcases hn.1.cases_tail with rfl | ⟨m, hm, hmn⟩
    · exact .inl hr
    · exact .inr ⟨m, ⟨hm, lt_size_of_holds hmn⟩, hmn⟩
  · intro n hn
    exact List.mem_range.2 hn.2

/-- Without cycles, no nodes keep each other. -/
theorem IsAcyclic.mem_kept_iff (h : f.IsAcyclic) :
    n ∈ f.kept roots ↔ n < f.size ∧ ∃ r ∈ roots, Relation.ReflTransGen f.Holds r n := by
  constructor
  · intro hn
    refine ⟨List.mem_range.1 (dropUnheld_subset f roots _ _ hn), ?_⟩
    by_contra hnone
    -- Otherwise holders could be followed upwards for ever.
    have hchain : ∀ k, ∃ m l, (m :: l).IsChain f.Holds ∧ l.length = k ∧ m ∈ f.kept roots ∧
        ¬ ∃ r ∈ roots, Relation.ReflTransGen f.Holds r m := by
      intro k
      induction k with
      | zero => exact ⟨n, [], .singleton n, rfl, hn, hnone⟩
      | succ k ih =>
        obtain ⟨m, l, hl, rfl, hm, hnone⟩ := ih
        have hheld : f.isHeldBy roots (f.kept roots) m = true := held_of_mem_dropUnheld (by simp) m hm
        rcases isHeldBy_iff.1 hheld with hr | ⟨m', hm', hmm⟩
        · exact absurd ⟨m, hr, .refl⟩ hnone
        · refine ⟨m', m :: l, List.isChain_cons_cons.2 ⟨hmm, hl⟩, rfl, hm', ?_⟩
          rintro ⟨r, hr, hb⟩
          exact hnone ⟨r, hr, hb.tail hmm⟩
    obtain ⟨m, l, hl, hlength, -⟩ := hchain (f.size + 1)
    have hle := h.chain_length_le hl
    omega
  · rintro ⟨hn, r, hr, hb⟩
    exact mem_kept_of_holds hr hb hn

end CallPath.Forest
