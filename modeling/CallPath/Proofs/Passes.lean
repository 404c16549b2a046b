import CallPath.Proofs.Nesting
import CallPath.Proofs.Operations
import Mathlib.Data.List.Induction
/-!
# What a resolution pass does

A pass goes through its nodes one by one and changes the forest meanwhile, but what it decides of a
node depends on the forest as it was before the pass: on the tag and the mark of that node, and on
the ids of all others. So its result has a closed form (`resolvePass_eq`), and so has every node
after it (`links_resolvePass`).
-/

namespace CallPath.Forest

/-- Whether a node was given a tag and is not resolved yet. -/
def isPending (f : Forest) (n : NodeRef) : Bool :=
  (f.get n).receipt.isPresent && !(f.get n).isResolved

/-- Whether a pass over the nodes links a node. -/
def canLink (f : Forest) (nodes : List NodeRef) (n : NodeRef) : Bool :=
  f.isPending n && (f.producerAmong nodes n).isSome

/-- Whether a pass over the nodes leaves a node unresolved. -/
def isStuck (f : Forest) (nodes : List NodeRef) (n : NodeRef) : Bool :=
  f.isPending n && (f.producerAmong nodes n).isNone

/-- The nodes that a pass over them links. -/
def linkable (f : Forest) (nodes : List NodeRef) : List NodeRef :=
  nodes.filter (f.canLink nodes)

/-- The nodes that a pass over them leaves unresolved. -/
def stuck (f : Forest) (nodes : List NodeRef) : List NodeRef :=
  nodes.filter (f.isStuck nodes)

/-- The consumers among the nodes whose tag comes from `p`, as entries among its children. -/
def entriesOf (f : Forest) (nodes : List NodeRef) (linked : List NodeRef) (p : NodeRef) : List (LinkKind × NodeRef) :=
  (linked.filter fun n => f.producerAmong nodes n = some p).map fun n => (.tagLinked, n)

/-- A node after some of the nodes were linked to the producers they have among them all. -/
def linkedNode (f : Forest) (nodes linked : List NodeRef) (m : NodeRef) : Node :=
  { f.get m with
    producer := if m ∈ linked then f.producerAmong nodes m else (f.get m).producer
    children := (f.get m).children ++ f.entriesOf nodes linked m }

theorem entriesOf_snoc (f : Forest) (nodes linked : List NodeRef) (n p : NodeRef) :
    f.entriesOf nodes (linked ++ [n]) p =
      f.entriesOf nodes linked p ++ if f.producerAmong nodes n = some p then [(.tagLinked, n)] else [] := by
  unfold entriesOf
  rw [List.filter_append, List.map_append]
  by_cases h : f.producerAmong nodes n = some p <;> simp [h]

/-! ## Producers -/

variable {f g : Forest} {nodes : List NodeRef} {n p : NodeRef}

theorem mem_linkable :
    n ∈ f.linkable nodes ↔ n ∈ nodes ∧ f.isPending n = true ∧ ∃ p, f.producerAmong nodes n = some p := by
  simp [linkable, canLink, Option.isSome_iff_exists]

theorem producerAmong_some (h : f.producerAmong nodes n = some p) :
    p ∈ nodes ∧ (f.get n).receipt.id? = some (f.idOf p) := by
  obtain ⟨id, hid, hp⟩ := Option.bind_eq_some_iff.1 h
  have e : f.idOf p = id := by simpa using List.find?_some hp
  exact ⟨List.mem_reverse.1 (List.mem_of_find?_eq_some hp), by rw [hid, e]⟩

/-- Where the ids of the nodes differ, the id of a tag names its producer. -/
theorem producerAmong_eq_some_iff (hd : (nodes.map f.idOf).Nodup) :
    f.producerAmong nodes n = some p ↔ p ∈ nodes ∧ (f.get n).receipt.id? = some (f.idOf p) := by
  constructor
  · exact producerAmong_some
  · rintro ⟨hp, hid⟩
    unfold producerAmong
    rw [hid, Option.bind_some]
    cases hq : nodes.reverse.find? fun q => f.idOf q = f.idOf p with
    | none =>
      rw [List.find?_eq_none] at hq
      exact absurd (hq p (List.mem_reverse.2 hp)) (by simp)
    | some q =>
      have hqm : q ∈ nodes := List.mem_reverse.1 (List.mem_of_find?_eq_some hq)
      have e : f.idOf q = f.idOf p := by simpa using List.find?_some hq
      rw [List.inj_on_of_nodup_map hd hqm hp e]

theorem producerAmong_congr (hid : ∀ m, g.idOf m = f.idOf m) (hr : (g.get n).receipt = (f.get n).receipt) :
    g.producerAmong nodes n = f.producerAmong nodes n := by
  unfold producerAmong
  rw [hr, funext hid]

/-! ## One link -/

theorem get_resolve {c : NodeRef} (hc : c < f.size) (hp : p < f.size) (m : NodeRef) :
    (f.resolve c p).get m = { f.get m with
      producer := if m = c then some p else (f.get m).producer
      children := (f.get m).children ++ if m = p then [(.tagLinked, c)] else [] } := by
  unfold resolve
  rw [get_modify_eq, get_modify_eq]
  by_cases hm : m = c <;> by_cases hm' : m = p
  · subst hm hm'
    simp [hc, Node.link]
  · subst hm
    simp [hc, hm', Ne.symm hm']
  · subst hm'
    simp [hp, hm, Ne.symm hm, Node.link]
  · simp [hm, hm', Ne.symm hm, Ne.symm hm']

/-- A link changes nothing but the producer of one node and the children of another. -/
theorem get_resolve_same {α : Type} {q : Node → α} (hp : ∀ m p, q { m with producer := p } = q m)
    (hl : ∀ m c, q (m.link .tagLinked c) = q m) (f : Forest) (c p m : NodeRef) :
    q ((f.resolve c p).get m) = q (f.get m) :=
  (get_modify_same (fun m => hl m c) _ p m).trans (get_modify_same (fun m => hp m _) f c m)

@[simp] theorem size_resolve (f : Forest) (c p : NodeRef) : (f.resolve c p).size = f.size := by
  simp [resolve]

/-! ## A pass -/

/-- A forest in which some of the nodes were linked. -/
structure Links (f : Forest) (nodes linked : List NodeRef) (g : Forest) : Prop where
  size : g.size = f.size
  get : ∀ m, g.get m = f.linkedNode nodes linked m

namespace Links

theorem none (f : Forest) (nodes : List NodeRef) : f.Links nodes [] f := by
  refine ⟨rfl, ?_⟩
  intro m
  simp [linkedNode, entriesOf]

variable {linked : List NodeRef} (h : f.Links nodes linked g)

include h

theorem idOf (m : NodeRef) : g.idOf m = f.idOf m := by
  unfold Forest.idOf
  rw [h.get]
  rfl

theorem producerAmong (ns : List NodeRef) (m : NodeRef) : g.producerAmong ns m = f.producerAmong ns m :=
  producerAmong_congr h.idOf (by rw [h.get]; rfl)

theorem isPending_of_not_mem (hn : n ∉ linked) : g.isPending n = f.isPending n := by
  simp [isPending, h.get, linkedNode, Node.isResolved, hn]

theorem resolve (hn : n < f.size) (hp : p < f.size) (h' : f.producerAmong nodes n = some p) :
    f.Links nodes (linked ++ [n]) (g.resolve n p) := by
  refine ⟨by rw [size_resolve, h.size], ?_⟩
  intro m
  rw [get_resolve (by rwa [h.size]) (by rwa [h.size]), h.get]
  unfold linkedNode
  rw [entriesOf_snoc, h']
  simp only [List.mem_append, List.mem_singleton, List.append_assoc, Option.some.injEq, @eq_comm _ p m]
  by_cases hm : m = n
  · subst hm
    simp [h']
  · simp [hm]

end Links

/-- A pass decides of each node as if it were the first. -/
theorem foldl_resolveStep {l : List NodeRef} (hn : l.Nodup) (hl : ∀ n ∈ l, n < f.size)
    (hb : ∀ p ∈ nodes, p < f.size) : ∃ g, f.Links nodes (l.filter (f.canLink nodes)) g ∧
      l.foldl (resolveStep nodes) ({}, f) = (⟨l.filter (f.canLink nodes), l.filter (f.isStuck nodes)⟩, g) := by
  induction l using List.reverseRecOn with
  | nil => exact ⟨f, .none f nodes, rfl⟩
  | append_singleton l n ih =>
    obtain ⟨hnl, -, hnot⟩ := List.nodup_append.1 hn
    obtain ⟨g, hg, e⟩ := ih hnl fun m hm => hl m (by simp [hm])
    -- The node does not come twice, so nothing was decided of it before.
    have hfresh : n ∉ l.filter (f.canLink nodes) := fun hm => hnot n (List.mem_of_mem_filter hm) n (by simp) rfl
    have hpend := hg.isPending_of_not_mem hfresh
    have hprod := hg.producerAmong nodes n
    rw [List.foldl_append, e, List.filter_append, List.filter_append]
    simp only [List.foldl_cons, List.foldl_nil, List.filter_cons, List.filter_nil]
    have hguard : (!(g.get n).receipt.isPresent || (g.get n).isResolved) = !f.isPending n := by
      rw [← hpend]
      simp [isPending]
    unfold resolveStep
    simp only [hguard, hprod]
    cases hp : f.isPending n with
    | false =>
      refine ⟨g, ?_, ?_⟩ <;> simp [canLink, isStuck, hp, hg]
    | true =>
      cases hq : f.producerAmong nodes n with
      | none => exact ⟨g, by simpa [canLink, hp, hq] using hg, by simp [canLink, isStuck, hp, hq]⟩
      | some p =>
        refine ⟨g.resolve n p, ?_, by simp [canLink, isStuck, hp, hq]⟩
        simpa [canLink, hp, hq] using hg.resolve (hl n (by simp)) (hb p (producerAmong_some hq).1) hq

variable {a : Archive}

/-- What a pass over an archive reports. -/
theorem resolvePass_eq (hn : (a.nodes f).Nodup) (hb : ∀ n ∈ a.nodes f, n < f.size) :
    (f.resolvePass a).1 = ⟨f.linkable (a.nodes f), f.stuck (a.nodes f)⟩ := by
  obtain ⟨g, -, e⟩ := foldl_resolveStep hn hb hb
  unfold resolvePass
  rw [e]
  rfl

/-- What a pass over an archive leaves. -/
theorem links_resolvePass (hn : (a.nodes f).Nodup) (hb : ∀ n ∈ a.nodes f, n < f.size) :
    f.Links (a.nodes f) (f.linkable (a.nodes f)) (f.resolvePass a).2 := by
  obtain ⟨g, hg, e⟩ := foldl_resolveStep hn hb hb
  unfold resolvePass
  rw [e]
  exact hg

/-- What a pass has linked is no longer pending, and nothing else has changed. -/
theorem Links.isPending_eq (h : f.Links nodes (f.linkable nodes) g) (n : NodeRef) :
    g.isPending n = (f.isPending n && !decide (n ∈ f.linkable nodes)) := by
  by_cases hn : n ∈ f.linkable nodes
  · obtain ⟨-, -, p, hp⟩ := mem_linkable.1 hn
    have hresolved : (g.get n).isResolved = true := by
      rw [h.get]
      simp [linkedNode, Node.isResolved, hn, hp]
    simp [isPending, hresolved, hn]
  · rw [h.isPending_of_not_mem hn, decide_eq_false hn]
    simp

end CallPath.Forest
