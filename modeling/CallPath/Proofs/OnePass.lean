import CallPath.Proofs.Correlation
import CallPath.Proofs.Increments
import CallPath.Proofs.Links
import Mathlib.Data.List.Flatten
/-!
# One resolution pass

A pass may be made over any archive whose trees have distinct ids, whatever its nodes were given and
whichever of them are resolved already. It reports every pending node once, as linked or as
unresolved, in the order of the archive, and it changes nothing but the links it reports
(`Forest.Separate.passedOnce`). A second pass finds what is left, and can do nothing about it.
-/

namespace CallPath

namespace Forest

/-- Trees whose nodes are there and have distinct ids. -/
structure Separate (f : Forest) (a : Archive) : Prop where
  bounded : ∀ n ∈ a.nodes f, n < f.size
  distinct : ((a.nodes f).map f.idOf).Nodup

/-- Whether the tag of `n` carries the id of one of the nodes. -/
def isKnown (f : Forest) (nodes : List NodeRef) (n : NodeRef) : Bool :=
  nodes.any fun p => (f.get n).receipt.id? = some (f.idOf p)

/-- The archived node whose id the tag of `n` carries. -/
def named? (f : Forest) (a : Archive) (n : NodeRef) : Option NodeRef :=
  (f.get n).receipt.id?.bind (a.find? f)

variable {f g : Forest} {a : Archive} {n p r : NodeRef} {nodes : List NodeRef}

/-- A walk comes by every node of a chain of links, one after the other. -/
theorem sublist_preorderTo {l : List NodeRef} {d : Nat} (hl : (n :: l).IsChain f.Nests) (hd : l.length ≤ d) :
    (n :: l).Sublist (f.preorderTo d n) := by
  induction l generalizing n d with
  | nil => exact List.singleton_sublist.2 (mem_preorderTo_self f d n)
  | cons c l ih =>
    obtain ⟨hc, hl⟩ := List.isChain_cons_cons.1 hl
    obtain ⟨d, rfl⟩ : ∃ e, d = e + 1 := ⟨d - 1, by simp at hd; omega⟩
    have hchild : (f.preorderTo d c).Sublist ((f.get n).childRefs.flatMap (f.preorderTo d)) := by
      simpa using (List.singleton_sublist.2 hc).flatMap (f.preorderTo d)
    exact ((ih hl (by simpa using hd)).trans hchild).cons_cons n

namespace Separate

variable (h : f.Separate a)

include h

theorem nodup : (a.nodes f).Nodup :=
  h.distinct.of_map

/-- A chain of links below a root visits different nodes, so that it is shorter than the forest is
large, and no walk is cut short. -/
theorem chain_length_lt {l : List NodeRef} (hr : r ∈ a.roots) (hl : (r :: l).IsChain f.Nests) :
    l.length < f.size := by
  have hshort : ∀ {l}, (r :: l).IsChain f.Nests → l.length ≤ f.size → l.length < f.size := by
    intro l hl hle
    have hwalk : (r :: l).Sublist (f.preorder r) := sublist_preorderTo hl hle
    have htree : (f.preorder r).Sublist (a.nodes f) := by
      simpa [Archive.nodes] using (List.singleton_sublist.2 hr).flatMap f.preorder
    have hsub := hwalk.trans htree
    have hrange : r :: l ⊆ List.range f.size := fun m hm => List.mem_range.2 (h.bounded m (hsub.subset hm))
    have hbound := (h.nodup.sublist hsub).length_le_of_subset hrange
    simpa [Nat.succ_le_iff] using hbound
  by_contra hlt
  -- A longer chain has a beginning of just that length.
  have htake : (r :: l.take f.size).IsChain f.Nests := by
    simpa using hl.take (f.size + 1)
  have hlength : (l.take f.size).length = f.size := List.length_take_of_le (Nat.le_of_not_lt hlt)
  have hbound := hshort htake hlength.le
  omega

theorem mem_nodes_iff : n ∈ a.nodes f ↔ ∃ r ∈ a.roots, f.Below r n := by
  constructor
  · intro hn
    obtain ⟨r, hr, hn⟩ := List.mem_flatMap.1 hn
    exact ⟨r, hr, below_of_mem_preorder hn⟩
  · rintro ⟨r, hr, hb⟩
    obtain ⟨l, hl, rfl⟩ := List.exists_isChain_cons_of_relationReflTransGen hb
    refine List.mem_flatMap.2 ⟨r, hr, ?_⟩
    exact mem_preorderTo_of_chain hl (h.chain_length_lt hr hl).le (List.getLast_mem _)

/-! ## Which node a tag names -/

/-- It makes no difference from which end the nodes are searched. -/
theorem named?_eq (n : NodeRef) : f.named? a n = f.producerAmong (a.nodes f) n := by
  have hrev : f.named? a n = f.producerAmong (a.nodes f).reverse n := by
    simp only [producerAmong, List.reverse_reverse]
    rfl
  have hd : ((a.nodes f).reverse.map f.idOf).Nodup := by simpa [List.map_reverse] using h.distinct
  ext p
  rw [hrev, producerAmong_eq_some_iff hd, producerAmong_eq_some_iff h.distinct, List.mem_reverse]

theorem isKnown_eq (n : NodeRef) : f.isKnown (a.nodes f) n = (f.producerAmong (a.nodes f) n).isSome := by
  rw [Bool.eq_iff_iff, isKnown, List.any_eq_true, Option.isSome_iff_exists]
  simp only [decide_eq_true_iff, producerAmong_eq_some_iff h.distinct]

end Separate

/-! ## A pass, and another one -/

namespace Links

variable (h : f.Links nodes (f.linkable nodes) g)

include h

theorem linkable_again : g.linkable nodes = [] := by
  rw [linkable, List.filter_eq_nil_iff]
  intro n hn hc
  simp only [canLink, h.isPending_eq, h.producerAmong, Bool.and_eq_true, Bool.not_eq_true',
    decide_eq_false_iff_not] at hc
  exact hc.1.2 (List.mem_filter.2 ⟨hn, by simp [canLink, hc.1.1, hc.2]⟩)

theorem stuck_again : g.stuck nodes = f.stuck nodes := by
  apply List.filter_congr
  intro n _
  unfold isStuck
  rw [h.isPending_eq, h.producerAmong]
  by_cases hn : n ∈ f.linkable nodes
  · obtain ⟨-, -, p, hp⟩ := mem_linkable.1 hn
    simp [hp]
  · simp [hn]

end Links

namespace Separate

variable (h : f.Separate a)

include h

theorem links : f.Links (a.nodes f) (f.linkable (a.nodes f)) (f.resolvePass a).2 :=
  links_resolvePass h.nodup h.bounded

theorem nodes_eq : a.nodes (f.resolvePass a).2 = a.nodes f := by
  unfold Archive.nodes
  rw [h.links.preorder_eq]

theorem resolvePass_again :
    (f.resolvePass a).2.resolvePass a = (⟨[], (f.resolvePass a).1.unresolved⟩, (f.resolvePass a).2) := by
  have hl := h.links
  have hn : (a.nodes (f.resolvePass a).2).Nodup := by
    rw [h.nodes_eq]
    exact h.nodup
  have hb : ∀ n ∈ a.nodes (f.resolvePass a).2, n < (f.resolvePass a).2.size := by
    rw [h.nodes_eq, hl.size]
    exact h.bounded
  have hreport := resolvePass_eq hn hb
  have hafter := links_resolvePass hn hb
  rw [h.nodes_eq] at hreport hafter
  rw [hl.linkable_again] at hreport hafter
  rw [hl.stuck_again] at hreport
  rw [resolvePass_eq h.nodup h.bounded]
  exact Prod.ext hreport ((Links.none _ _).unique hafter)

end Separate

end Forest

namespace Session

theorem warnUnresolved_archive {s : Session} (ns : List NodeRef) : (ns.foldl warnUnresolved s).archive = s.archive := by
  induction ns generalizing s with
  | nil => rfl
  | cons n ns ih => exact ih

/-- What is counted and logged besides concerns neither the nodes nor the archive. -/
theorem resolve_same (s : Session) (w : Bool) : (s.resolve w).1 = (s.forest.resolvePass s.archive).1 ∧
    (s.resolve w).2.forest = (s.forest.resolvePass s.archive).2 ∧ (s.resolve w).2.archive = s.archive := by
  cases w with
  | false => exact ⟨rfl, rfl, rfl⟩
  | true => exact ⟨rfl, warnUnresolved_forest _, warnUnresolved_archive _⟩

/-- What one pass over the archive of `s` reports, and what it leaves. -/
structure PassedOnce (s : Session) (r : Resolution) (s' : Session) : Prop where
  linked : r.linked = (s.archive.nodes s.forest).filter fun n =>
    s.forest.isPending n && s.forest.isKnown (s.archive.nodes s.forest) n
  unresolved : r.unresolved = (s.archive.nodes s.forest).filter fun n =>
    s.forest.isPending n && !s.forest.isKnown (s.archive.nodes s.forest) n
  /-- A linked node is resolved, and its producer is seen as long as the archive is there. -/
  producer : ∀ n ∈ r.linked, ∃ p, s.forest.named? s.archive n = some p ∧ (s'.forest.get n).producer = some p ∧
    (s'.forest.get n).isResolved = true ∧
      ∀ roots, s.archive.roots ⊆ roots → s'.forest.linkedParent? roots n = some p
  children : ∀ m, (s'.forest.get m).children = (s.forest.get m).children ++
    (r.linked.filter fun n => s.forest.named? s.archive n = some m).map fun n => (.tagLinked, n)
  /-- All else is as before, and so are all trees. -/
  size : s'.forest.size = s.forest.size
  get : ∀ m, s'.forest.get m = { s.forest.get m with
    producer := (s'.forest.get m).producer
    children := (s'.forest.get m).children }
  producer_same : ∀ m, m ∉ r.linked → (s'.forest.get m).producer = (s.forest.get m).producer
  archive : s'.archive = s.archive
  preorder : s'.forest.preorder = s.forest.preorder
  nodes : s'.archive.nodes s'.forest = s.archive.nodes s.forest
  /-- Both kinds of passes do the same to the nodes. -/
  pending : s.resolvePending = (r.unresolved, { s with forest := s'.forest })
  /-- Another pass finds the same nodes unresolved, and changes none. -/
  again : ∀ w, (s'.resolve w).1 = ⟨[], r.unresolved⟩ ∧ (s'.resolve w).2.forest = s'.forest
  pending_again : s'.resolvePending = (r.unresolved, s')

end Session

/-- Whatever the archived nodes were given, and whatever earlier passes have linked, a pass links the
pending nodes whose producer is in the archive and reports the others. -/
theorem Forest.Separate.passedOnce {s : Session} (h : s.forest.Separate s.archive) (w : Bool) :
    s.PassedOnce (s.resolve w).1 (s.resolve w).2 := by
  obtain ⟨hr, hf, ha⟩ := s.resolve_same w
  have hl := h.links
  have hreport := resolvePass_eq h.nodup h.bounded
  rw [← hf] at hl
  rw [← hr] at hreport
  have hlinked : (s.resolve w).1.linked = s.forest.linkable (s.archive.nodes s.forest) := by rw [hreport]
  have hname : ∀ n, s.forest.named? s.archive n = s.forest.producerAmong (s.archive.nodes s.forest) n := h.named?_eq
  have hnodes : (s.resolve w).2.archive.nodes (s.resolve w).2.forest = s.archive.nodes s.forest := by
    rw [ha, hf, h.nodes_eq]
  have hpass : (s.resolve w).2.forest.resolvePass (s.resolve w).2.archive =
      (⟨[], (s.resolve w).1.unresolved⟩, (s.resolve w).2.forest) := by
    rw [ha, hf, hr]
    exact h.resolvePass_again
  exact {
    linked := by
      rw [hlinked]
      simp only [h.isKnown_eq]
      rfl
    unresolved := by
      rw [hreport]
      simp only [h.isKnown_eq, Option.not_isSome]
      rfl
    producer := by
      intro n hn
      rw [hlinked] at hn
      obtain ⟨-, -, p, hp⟩ := mem_linkable.1 hn
      have hproducer : ((s.resolve w).2.forest.get n).producer = some p := by
        rw [hl.get]
        simp [linkedNode, hn, hp]
      refine ⟨p, (hname n).trans hp, hproducer, by simp [Node.isResolved, hproducer], ?_⟩
      intro roots hroots
      -- The producer is below a root of the archive, and its tree is as before.
      have hmem := (producerAmong_some hp).1
      obtain ⟨r, hroot, hb⟩ := h.mem_nodes_iff.1 hmem
      rw [← below_congr hl.childRefs_eq] at hb
      have hkept := mem_kept_of_below (hroots hroot) hb (hl.size ▸ h.bounded p hmem)
      simp [linkedParent?, hproducer, hkept]
    children := by
      intro m
      rw [hlinked, hl.get]
      simp only [hname]
      rfl
    size := hl.size
    get := by
      intro m
      rw [hl.get]
      rfl
    producer_same := by
      intro m hm
      rw [hlinked] at hm
      rw [hl.get]
      simp [linkedNode, hm]
    archive := ha
    preorder := hl.preorder_eq
    nodes := hnodes
    pending := by
      rw [hr, hf]
      rfl
    again := by
      intro w'
      obtain ⟨hr', hf', -⟩ := (s.resolve w).2.resolve_same w'
      rw [hr', hf', hpass]
      exact ⟨rfl, rfl⟩
    pending_again := by
      unfold Session.resolvePending
      rw [hpass] }

/-- The archive of a session holds trees of this kind at any time. -/
theorem Run.separate {s₀ s : Session} {log : List Step} (h : Run s₀ s log) (h0 : s₀.IsNew) :
    s.forest.Separate s.archive where
  bounded _ hn := (h.sound h0).lt_of_archived hn
  distinct := by
    have hb : ∀ n ∈ s.archive.nodes s.forest, n < s.forest.size := fun n => (h.sound h0).lt_of_archived
    refine ((h.sound h0).archived_nodup (h.filed h0)).map_on ?_
    exact fun n hn m hm => (h.inStep h0).distinct n m (hb n hn) (hb m hm)

/-- In one tree, the root was given a malformed tag, and below it are one tracer that was given the tag
of the root and one with the tag of a tracer that is not archived. The other tree has a tracer with its
own tag, one with the tag of the first root, and one that an earlier pass has linked. -/
def mixedSession : Session :=
  let node (id : TracerId) (receipt : TagReceipt) (producer : Option NodeRef)
      (children : List (LinkKind × NodeRef)) : Node :=
    { id, owner := ⟨"a"⟩, details := .customService ⟨"method", "service"⟩, state := .ended, receipt, producer,
      children }
  { name := "session"
    archive := ⟨[4, 0]⟩
    forest := ⟨#[
      node (.ofNat 1) .absent none [(.child, 1), (.tagLinked, 3), (.child, 2)],
      node (.ofNat 2) (.carries (.ofNat 2)) none [],
      node (.ofNat 3) (.carries (.ofNat 5)) none [(.child, 3)],
      node (.ofNat 4) (.carries (.ofNat 1)) (some 0) [],
      node (.ofNat 5) .undecodable none [(.child, 5), (.child, 6)],
      node (.ofNat 6) (.carries (.ofNat 5)) none [],
      node (.ofNat 7) (.carries (.ofNat 9)) none [],
      node (.ofNat 9) .absent none []]⟩ }

theorem passedOnce_mixedSession :
    let s' := (mixedSession.resolve true).2
    mixedSession.PassedOnce (mixedSession.resolve true).1 s' ∧
      (mixedSession.resolve true).1 = ⟨[5, 1, 2], [4, 6]⟩ ∧
      (s'.forest.get 4).children = [(.child, 5), (.child, 6), (.tagLinked, 5), (.tagLinked, 2)] ∧
      (s'.forest.get 1).children = [(.tagLinked, 1)] ∧ s'.forest.linkedParent? s'.archive.roots 1 = some 1 := by
  have h : mixedSession.forest.Separate mixedSession.archive := ⟨by decide +kernel, by decide +kernel⟩
  exact ⟨h.passedOnce true, by decide +kernel, by decide +kernel, by decide +kernel, by decide +kernel⟩

end CallPath
