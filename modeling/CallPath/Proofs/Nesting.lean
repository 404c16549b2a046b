import CallPath.Archive
import Mathlib.Data.List.Chain
import Mathlib.Data.List.Nodup
import Mathlib.Logic.Relation
/-!
# Nested tracers form trees

The links between tracers and the tracers nested in them, as a relation `Nests` of positions.
Where they form trees (`IsNesting`), `preorder` lists each node below its start exactly once
(`mem_preorder_iff`, `nodup_preorder`), and trees with different roots have no node in common
(`nodup_flatMap_preorder`).
-/

namespace CallPath.Forest

/-- `c` is nested in `p`. -/
def Nests (f : Forest) (p c : NodeRef) : Prop :=
  c ∈ (f.get p).childRefs

theorem nests_iff {f : Forest} {p c : NodeRef} : f.Nests p c ↔ (.child, c) ∈ (f.get p).children := by
  simp [Nests, Node.childRefs]

/-- Where there is no node, nothing is nested. -/
theorem lt_size_of_nests {f : Forest} {p c : NodeRef} (h : f.Nests p c) : p < f.size := by
  by_contra hlt
  rw [Nests, get_of_size_le (Nat.le_of_not_lt hlt)] at h
  cases h

/-- `n` is `r`, or nested in it at any depth. -/
def Below (f : Forest) : NodeRef → NodeRef → Prop :=
  Relation.ReflTransGen f.Nests

/-- No node is nested in this one. -/
def IsRoot (f : Forest) (r : NodeRef) : Prop :=
  ∀ p, ¬ f.Nests p r

/-- The links of nesting form trees: no cycle, and every node is nested at most once. -/
structure IsNesting (f : Forest) : Prop where
  bounded : ∀ p c, f.Nests p c → c < f.size
  acyclic : ∀ n, ¬ Relation.TransGen f.Nests n n
  parent_unique : ∀ p q c, f.Nests p c → f.Nests q c → p = q
  nodup : ∀ p, (f.get p).childRefs.Nodup

/-! ## The same children -/

theorem nests_congr {f f' : Forest} (h : ∀ n, (f'.get n).childRefs = (f.get n).childRefs) :
    f'.Nests = f.Nests := by
  funext p c
  unfold Nests
  rw [h]

theorem below_congr {f f' : Forest} (h : ∀ n, (f'.get n).childRefs = (f.get n).childRefs) : f'.Below = f.Below := by
  unfold Below
  rw [nests_congr h]

theorem isRoot_congr {f f' : Forest} (h : ∀ n, (f'.get n).childRefs = (f.get n).childRefs) (r : NodeRef) :
    f'.IsRoot r ↔ f.IsRoot r := by
  unfold IsRoot
  rw [nests_congr h]

theorem IsNesting.congr {f f' : Forest} (h : f.IsNesting) (hs : f.size ≤ f'.size)
    (hc : ∀ n, (f'.get n).childRefs = (f.get n).childRefs) : f'.IsNesting where
  bounded p c hpc := by
    rw [nests_congr hc] at hpc
    exact Nat.lt_of_lt_of_le (h.bounded p c hpc) hs
  acyclic := by
    rw [nests_congr hc]
    exact h.acyclic
  parent_unique := by
    rw [nests_congr hc]
    exact h.parent_unique
  nodup p := by
    rw [hc]
    exact h.nodup p

/-! ## What `preorder` lists -/

theorem preorderTo_congr {f f' : Forest} (h : ∀ n, (f'.get n).childRefs = (f.get n).childRefs) (d : Nat)
    (n : NodeRef) : f'.preorderTo d n = f.preorderTo d n := by
  induction d generalizing n with
  | zero => rfl
  | succ d ih => simp only [preorderTo, h, funext ih]

theorem preorder_congr {f f' : Forest} (hs : f'.size = f.size)
    (h : ∀ n, (f'.get n).childRefs = (f.get n).childRefs) (n : NodeRef) : f'.preorder n = f.preorder n := by
  unfold preorder
  rw [hs, preorderTo_congr h]

theorem mem_preorderTo_self (f : Forest) (d : Nat) (n : NodeRef) : n ∈ f.preorderTo d n := by
  cases d <;> simp [preorderTo]

theorem below_of_mem_preorderTo {f : Forest} {d : Nat} {n m : NodeRef} (h : m ∈ f.preorderTo d n) :
    f.Below n m := by
  induction d generalizing n with
  | zero =>
    obtain rfl : m = n := by simpa [preorderTo] using h
    exact .refl
  | succ d ih =>
    rcases List.mem_cons.1 h with rfl | h
    · exact .refl
    · obtain ⟨c, hc, h⟩ := List.mem_flatMap.1 h
      exact .head hc (ih h)

theorem below_of_mem_preorder {f : Forest} {n m : NodeRef} (h : m ∈ f.preorder n) : f.Below n m :=
  below_of_mem_preorderTo h

/-- A walk reaches what a chain of links no longer than its depth reaches. -/
theorem mem_preorderTo_of_chain {f : Forest} {l : List NodeRef} {n m : NodeRef} {d : Nat}
    (hl : (n :: l).IsChain f.Nests) (hd : l.length ≤ d) (hm : m ∈ n :: l) : m ∈ f.preorderTo d n := by
  induction l generalizing n d with
  | nil =>
    obtain rfl : m = n := by simpa using hm
    exact mem_preorderTo_self f d m
  | cons c l ih =>
    rcases List.mem_cons.1 hm with rfl | hm
    · exact mem_preorderTo_self f d m
    · obtain ⟨hc, hl⟩ := List.isChain_cons_cons.1 hl
      obtain ⟨d, rfl⟩ : ∃ e, d = e + 1 := ⟨d - 1, by simp at hd; omega⟩
      refine List.mem_cons_of_mem _ (List.mem_flatMap.2 ⟨c, hc, ih hl ?_ hm⟩)
      simpa using hd

/-! ## Trees -/

/-- Without a cycle, no chain comes back to where it was. -/
theorem nodup_of_isChain {r : NodeRef → NodeRef → Prop} (h : ∀ n, ¬ Relation.TransGen r n n) {l : List NodeRef}
    (hl : l.IsChain r) : l.Nodup := by
  have hp : l.Pairwise (Relation.TransGen r) := (hl.imp fun _ _ => .single).pairwise
  refine hp.imp ?_
  rintro a _ hab rfl
  exact h a hab

/-- Without a cycle, a chain is no longer than there are positions to go on from. -/
theorem length_le_of_isChain {r : NodeRef → NodeRef → Prop} {k : Nat} (h : ∀ n, ¬ Relation.TransGen r n n)
    (hk : ∀ p c, r p c → p < k) {n : NodeRef} {l : List NodeRef} (hl : (n :: l).IsChain r) : l.length ≤ k := by
  -- Only the last position of a chain may be one without links, which could be anywhere.
  have hbounded : ∀ m ∈ (n :: l).dropLast, m < k := by
    clear h
    induction l generalizing n with
    | nil => simp
    | cons c l ih =>
      obtain ⟨hc, hl⟩ := List.isChain_cons_cons.1 hl
      intro m hm
      rcases List.mem_cons.1 hm with rfl | hm
      · exact hk m c hc
      · exact ih hl m hm
  have hnodup : (n :: l).dropLast.Nodup := (nodup_of_isChain h hl).sublist (List.dropLast_sublist _)
  have hsubset : (n :: l).dropLast ⊆ List.range k := fun m hm => List.mem_range.2 (hbounded m hm)
  simpa using hnodup.length_le_of_subset hsubset

/-- A position is on no cycle if none that is linked from it is. -/
theorem not_transGen_self {r : NodeRef → NodeRef → Prop} {n : NodeRef}
    (h : ∀ c, r n c → ¬ Relation.TransGen r c c) : ¬ Relation.TransGen r n n := by
  intro hn
  obtain ⟨c, hc, hcn⟩ := Relation.TransGen.head'_iff.1 hn
  exact h c hc (.tail' hcn hc)

namespace IsNesting

variable {f : Forest} (h : f.IsNesting)

include h

/-- A chain of links is no longer than the forest is large, so a walk of that depth misses nothing. -/
theorem chain_length_le {n : NodeRef} {l : List NodeRef} (hl : (n :: l).IsChain f.Nests) : l.length ≤ f.size :=
  length_le_of_isChain h.acyclic (fun _ _ => lt_size_of_nests) hl

theorem mem_preorder_iff {n m : NodeRef} : m ∈ f.preorder n ↔ f.Below n m := by
  refine ⟨below_of_mem_preorder, fun hb => ?_⟩
  obtain ⟨l, hl, rfl⟩ := List.exists_isChain_cons_of_relationReflTransGen hb
  exact mem_preorderTo_of_chain hl (h.chain_length_le hl) (List.getLast_mem _)

/-- Of two nodes above a third, one is above the other. -/
theorem below_total {a b n : NodeRef} (ha : f.Below a n) (hb : f.Below b n) : f.Below a b ∨ f.Below b a := by
  -- On the way up there is one parent only, so the ways from `n` to `a` and to `b` start alike.
  have hu : Relator.RightUnique (Function.swap f.Nests) := fun c p q hp hq => h.parent_unique p q c hp hq
  rcases Relation.ReflTransGen.total_of_right_unique hu ha.swap hb.swap with hab | hba
  · exact .inr hab.swap
  · exact .inl hba.swap

theorem sibling_eq {p a b : NodeRef} (ha : f.Nests p a) (hb : f.Nests p b) (hab : f.Below a b) : a = b := by
  cases hab.cases_tail with
  | inl e => exact e.symm
  | inr hq =>
    obtain ⟨q, haq, hqb⟩ := hq
    rw [h.parent_unique q p b hqb hb] at haq
    exact absurd (Relation.TransGen.head' ha haq) (h.acyclic p)

theorem siblings_disjoint {p a b n : NodeRef} (ha : f.Nests p a) (hb : f.Nests p b) (hne : a ≠ b)
    (han : f.Below a n) (hbn : f.Below b n) : False := by
  rcases h.below_total han hbn with hab | hba
  · exact hne (h.sibling_eq ha hb hab)
  · exact hne (h.sibling_eq hb ha hba).symm

theorem nodup_preorderTo (d : Nat) (n : NodeRef) : (f.preorderTo d n).Nodup := by
  induction d generalizing n with
  | zero => simp [preorderTo]
  | succ d ih =>
    refine List.nodup_cons.2 ⟨fun hn => ?_, List.nodup_flatMap.2 ⟨fun c _ => ih c, ?_⟩⟩
    · -- A node below its own child would be on a cycle.
      obtain ⟨c, hc, hn⟩ := List.mem_flatMap.1 hn
      exact h.acyclic n (Relation.TransGen.head' hc (below_of_mem_preorderTo hn))
    · refine List.Pairwise.imp_of_mem ?_ (h.nodup n)
      intro a b ha hb hne m hma hmb
      exact h.siblings_disjoint ha hb hne (below_of_mem_preorderTo hma) (below_of_mem_preorderTo hmb)

theorem nodup_preorder (n : NodeRef) : (f.preorder n).Nodup :=
  h.nodup_preorderTo _ n

theorem roots_disjoint {a b n : NodeRef} (ha : f.IsRoot a) (hb : f.IsRoot b) (han : f.Below a n)
    (hbn : f.Below b n) : a = b := by
  have top : ∀ {x y}, f.IsRoot y → f.Below x y → x = y := fun hy hxy => by
    cases hxy.cases_tail with
    | inl e => exact e.symm
    | inr hq => exact absurd hq.choose_spec.2 (hy _)
  rcases h.below_total han hbn with hab | hba
  · exact top hb hab
  · exact (top ha hba).symm

/-- The trees of different roots, one after the other, list no node twice. -/
theorem nodup_flatMap_preorder {roots : List NodeRef} (hn : roots.Nodup) (hr : ∀ r ∈ roots, f.IsRoot r) :
    (roots.flatMap f.preorder).Nodup := by
  refine List.nodup_flatMap.2 ⟨fun r _ => h.nodup_preorder r, ?_⟩
  refine List.Pairwise.imp_of_mem ?_ hn
  intro a b ha hb hne m hma hmb
  exact hne (h.roots_disjoint (hr a ha) (hr b hb) (below_of_mem_preorder hma) (below_of_mem_preorder hmb))

end IsNesting

/-! ## One more leaf -/

/-- `f'` has the links of `f`, and `c` is nested in `p`. -/
structure AddsLeaf (f f' : Forest) (p c : NodeRef) : Prop where
  nests : ∀ a b, f'.Nests a b ↔ f.Nests a b ∨ (a = p ∧ b = c)
  ne : p ≠ c
  childless : ∀ b, ¬ f.Nests c b

theorem AddsLeaf.transGen {f f' : Forest} {p c : NodeRef} (h : f.AddsLeaf f' p c) {a b : NodeRef}
    (hab : Relation.TransGen f'.Nests a b) : a ≠ c ∧ (Relation.TransGen f.Nests a b ∨ b = c) := by
  -- The leaf has no links, so a chain can only end there.
  have step : ∀ {x y}, f'.Nests x y → x ≠ c := fun hxy e => by
    rcases (h.nests _ _).1 hxy with hxy | ⟨hx, -⟩
    · exact h.childless _ (e ▸ hxy)
    · exact h.ne (hx.symm.trans e)
  induction hab with
  | single hab =>
    refine ⟨step hab, ?_⟩
    rcases (h.nests _ _).1 hab with hab | ⟨-, hb⟩
    · exact .inl (.single hab)
    · exact .inr hb
  | tail _ hbc ih =>
    refine ⟨ih.1, ?_⟩
    rcases (h.nests _ _).1 hbc with hbc' | ⟨-, hc⟩
    · rcases ih.2 with hab | hb
      · exact .inl (hab.tail hbc')
      · exact absurd hb (step hbc)
    · exact .inr hc

theorem AddsLeaf.acyclic {f f' : Forest} {p c : NodeRef} (h : f.AddsLeaf f' p c)
    (hf : ∀ n, ¬ Relation.TransGen f.Nests n n) : ∀ n, ¬ Relation.TransGen f'.Nests n n := by
  intro n hn
  obtain ⟨hne, hn | hc⟩ := h.transGen hn
  · exact hf n hn
  · exact hne hc

end CallPath.Forest
