import CallPath.Archive
import CallPath.Proofs.Holding
/-!
# Walks that agree

A tree is listed by one walk and copied by another. Each goes over the children of a node one by one, with nothing
to bound its depth, and the links of tags may lead anywhere, also back up the same tree. Both come to an end at
every node exactly if no tracer is nested in itself (`acyclic_iff_lists`, `acyclic_iff_copies`), which is all that is
asked of the trees. Then they give what `preorder` and `snapshot` give, and agree on the nodes, their order and the
tags, in a tree and in an archive (`walksAgree`).
-/

namespace CallPath

namespace Snapshot

mutual

/-- The copies of single nodes, depth first. -/
def copies : Snapshot → List NodeCopy
  | .node copy children => copy :: listCopies children

/-- The copies of single nodes in the trees of a list, one tree after the other. -/
def listCopies : List Snapshot → List NodeCopy
  | [] => []
  | s :: rest => copies s ++ listCopies rest

end

mutual

theorem ids_eq : (s : Snapshot) → s.ids = s.copies.map NodeCopy.id
  | .node copy children => by rw [ids, copies, List.map_cons, listIds_eq children]

theorem listIds_eq : (l : List Snapshot) → listIds l = (listCopies l).map NodeCopy.id
  | [] => rfl
  | s :: rest => by rw [listIds, listCopies, List.map_append, ids_eq s, listIds_eq rest]

end

theorem listCopies_eq (l : List Snapshot) : listCopies l = l.flatMap copies := by
  induction l with
  | nil => rfl
  | cons s rest ih => rw [listCopies, List.flatMap_cons, ih]

end Snapshot

namespace Forest

variable {f : Forest} {n c : NodeRef} {children : List (LinkKind × NodeRef)}

/-! ## How deep tracers nest -/

/-- Below `n`, tracers nest at most `depth` levels deep. -/
def NestsTo (f : Forest) (depth : Nat) (n : NodeRef) : Prop :=
  ∀ l, (n :: l).IsChain f.Nests → l.length ≤ depth

/-- Without a cycle, the size of the forest is no limit. -/
theorem nestsTo_size (h : ∀ n, ¬ Relation.TransGen f.Nests n n) (n : NodeRef) : f.NestsTo f.size n :=
  fun _ hl => length_le_of_isChain h (fun _ _ => lt_size_of_nests) hl

theorem NestsTo.childless (h : f.NestsTo 0 n) : ¬ f.Nests n c := by
  intro hc
  have hlength := h [c] (List.isChain_pair.2 hc)
  simp at hlength

theorem NestsTo.childRefs_eq (h : f.NestsTo 0 n) : (f.get n).childRefs = [] :=
  List.eq_nil_iff_forall_not_mem.2 fun _ => h.childless

theorem NestsTo.child {d : Nat} (h : f.NestsTo (d + 1) n) (hc : f.Nests n c) : f.NestsTo d c := by
  intro l hl
  have hlength := h (c :: l) (List.isChain_cons_cons.2 ⟨hc, hl⟩)
  simpa using hlength

/-! ## Listing -/

/-- A loop over children that adds each of them to the list, followed by what the same loop adds for its own
children. Those linked through tags are passed by. -/
inductive Collects (f : Forest) : (children : List (LinkKind × NodeRef)) → (out out' : List NodeRef) → Prop
  | done {out : List NodeRef} : Collects f [] out out
  | child {c : NodeRef} {children : List (LinkKind × NodeRef)} {out mid out' : List NodeRef}
      (below : Collects f (f.get c).children (out ++ [c]) mid) (rest : Collects f children mid out') :
      Collects f ((.child, c) :: children) out out'
  | tagLinked {c : NodeRef} {children : List (LinkKind × NodeRef)} {out out' : List NodeRef}
      (rest : Collects f children out out') : Collects f ((.tagLinked, c) :: children) out out'

/-- The walk that lists a tree comes to its end at `n`, with the list `l`. -/
def Lists (f : Forest) (n : NodeRef) (l : List NodeRef) : Prop :=
  f.Collects (f.get n).children [n] l

theorem Collects.unique {out l l' : List NodeRef} (h : f.Collects children out l)
    (h' : f.Collects children out l') : l = l' := by
  induction h generalizing l' with
  | done =>
    cases h'
    rfl
  | child _ _ ih ihrest =>
    cases h' with
    | child below rest =>
      obtain rfl := ih below
      exact ihrest rest
  | tagLinked _ ih =>
    cases h' with
    | tagLinked rest => exact ih rest

/-- A loop that ends has met no cycle. -/
theorem Collects.not_cycle {out l : List NodeRef} (h : f.Collects children out l) (hc : (.child, c) ∈ children) :
    ¬ Relation.TransGen f.Nests c c := by
  induction h generalizing c with
  | done => simp at hc
  | child _ _ ih ihrest =>
    rcases List.mem_cons.1 hc with hc | hc
    · cases hc
      exact not_transGen_self fun m hm => ih (nests_iff.1 hm)
    · exact ihrest hc
  | tagLinked _ ih => exact ih ((List.mem_cons.1 hc).resolve_left (by simp))

/-- What the loop adds, if it is known what it adds for the children of each child. -/
theorem collects_flatMap (tree : NodeRef → List NodeRef)
    (h : ∀ c, (.child, c) ∈ children → ∀ out, f.Collects (f.get c).children (out ++ [c]) (out ++ tree c))
    (out : List NodeRef) :
    f.Collects children out (out ++ ((children.filter fun c => c.1 = .child).map Prod.snd).flatMap tree) := by
  induction children generalizing out with
  | nil => simpa using Collects.done
  | cons c children ih =>
    have hrest := ih fun m hm => h m (List.mem_cons_of_mem _ hm)
    obtain ⟨kind, c⟩ := c
    cases kind with
    | child => simpa using Collects.child (h c List.mem_cons_self out) (hrest (out ++ tree c))
    | tagLinked => simpa using Collects.tagLinked (hrest out)

theorem collects_children (tree : NodeRef → List NodeRef)
    (h : ∀ c, f.Nests n c → ∀ out, f.Collects (f.get c).children (out ++ [c]) (out ++ tree c)) (out : List NodeRef) :
    f.Collects (f.get n).children (out ++ [n]) (out ++ n :: (f.get n).childRefs.flatMap tree) := by
  have hloop := collects_flatMap tree (fun c hc => h c (nests_iff.2 hc)) (out ++ [n])
  rwa [List.append_assoc, List.singleton_append] at hloop

/-- A walk that is as deep as the tracers nest lists all of them. -/
theorem collects_preorderTo {d : Nat} (h : f.NestsTo d n) (out : List NodeRef) :
    f.Collects (f.get n).children (out ++ [n]) (out ++ f.preorderTo d n) := by
  induction d generalizing n out with
  | zero =>
    -- Nothing is nested in `n`, so it makes no difference what would come of that.
    have hnode := collects_children (fun _ => []) (fun c hc => absurd hc h.childless) out
    rwa [h.childRefs_eq] at hnode
  | succ d ih => exact collects_children (f.preorderTo d) (fun c hc => ih (h.child hc)) out

theorem lists_iff (h : ∀ n, ¬ Relation.TransGen f.Nests n n) {l : List NodeRef} :
    f.Lists n l ↔ l = f.preorder n := by
  have hlists : f.Lists n (f.preorder n) := collects_preorderTo (nestsTo_size h n) []
  constructor
  · exact fun hl => hl.unique hlists
  · rintro rfl
    exact hlists

theorem acyclic_iff_lists : (∀ n, ¬ Relation.TransGen f.Nests n n) ↔ ∀ n, ∃ l, f.Lists n l := by
  constructor
  · exact fun h n => ⟨_, (lists_iff h).2 rfl⟩
  · intro h n
    obtain ⟨l, hl⟩ := h n
    exact not_transGen_self fun c hc => Collects.not_cycle hl (nests_iff.1 hc)

/-! ## Copying -/

/-- A copy of the node alone, before any of its children is looked at. -/
def bareCopy (f : Forest) (n : NodeRef) : Snapshot :=
  .node { f.copyNode n with tagLinked := [] } []

/-- A loop over children that completes the copy of their node: below it come the copies of those nested in it, and
those linked through tags are named in it. -/
inductive Completes (f : Forest) : (children : List (LinkKind × NodeRef)) → (s s' : Snapshot) → Prop
  | done {s : Snapshot} : Completes f [] s s
  | child {c : NodeRef} {children : List (LinkKind × NodeRef)} {copy : NodeCopy} {trees : List Snapshot}
      {tree s : Snapshot} (below : Completes f (f.get c).children (f.bareCopy c) tree)
      (rest : Completes f children (.node copy (trees ++ [tree])) s) :
      Completes f ((.child, c) :: children) (.node copy trees) s
  | tagLinked {c : NodeRef} {children : List (LinkKind × NodeRef)} {copy : NodeCopy} {trees : List Snapshot}
      {s : Snapshot}
      (rest : Completes f children (.node { copy with tagLinked := copy.tagLinked ++ [f.idOf c] } trees) s) :
      Completes f ((.tagLinked, c) :: children) (.node copy trees) s

/-- The walk that copies a tree comes to its end at `n`, with the copy `s`. -/
def Copies (f : Forest) (n : NodeRef) (s : Snapshot) : Prop :=
  f.Completes (f.get n).children (f.bareCopy n) s

theorem Completes.unique {s t t' : Snapshot} (h : f.Completes children s t) (h' : f.Completes children s t') :
    t = t' := by
  induction h generalizing t' with
  | done =>
    cases h'
    rfl
  | child _ _ ih ihrest =>
    cases h' with
    | child below rest =>
      obtain rfl := ih below
      exact ihrest rest
  | tagLinked _ ih =>
    cases h' with
    | tagLinked rest => exact ih rest

/-- Where copying comes to an end, listing does so too. -/
theorem Completes.collects {s t : Snapshot} (h : f.Completes children s t) (out : List NodeRef) :
    ∃ l, f.Collects children out l := by
  induction h generalizing out with
  | done => exact ⟨out, .done⟩
  | child _ _ ih ihrest =>
    obtain ⟨mid, hmid⟩ := ih (out ++ [_])
    obtain ⟨l, hl⟩ := ihrest mid
    exact ⟨l, .child hmid hl⟩
  | tagLinked _ ih =>
    obtain ⟨l, hl⟩ := ih out
    exact ⟨l, .tagLinked hl⟩

/-- What the loop makes of a copy, if it is known what it makes of the copy of each child. -/
theorem completes_map (tree : NodeRef → Snapshot) (h : ∀ c, (.child, c) ∈ children → f.Copies c (tree c))
    (copy : NodeCopy) (trees : List Snapshot) :
    f.Completes children (.node copy trees)
      (.node
        { copy with
          tagLinked := copy.tagLinked ++ ((children.filter fun c => c.1 = .tagLinked).map Prod.snd).map f.idOf }
        (trees ++ ((children.filter fun c => c.1 = .child).map Prod.snd).map tree)) := by
  induction children generalizing copy trees with
  | nil => simpa using Completes.done
  | cons c children ih =>
    have hrest := ih fun m hm => h m (List.mem_cons_of_mem _ hm)
    obtain ⟨kind, c⟩ := c
    cases kind with
    | child => simpa using Completes.child (h c List.mem_cons_self) (hrest copy (trees ++ [tree c]))
    | tagLinked => simpa using Completes.tagLinked (hrest { copy with tagLinked := copy.tagLinked ++ [f.idOf c] } trees)

theorem copies_children (tree : NodeRef → Snapshot) (h : ∀ c, f.Nests n c → f.Copies c (tree c)) :
    f.Copies n (.node (f.copyNode n) ((f.get n).childRefs.map tree)) :=
  completes_map tree (fun c hc => h c (nests_iff.2 hc)) { f.copyNode n with tagLinked := [] } []

/-- A walk that is as deep as the tracers nest copies all of them. -/
theorem copies_snapshotTo {d : Nat} (h : f.NestsTo d n) : f.Copies n (f.snapshotTo d n) := by
  induction d generalizing n with
  | zero =>
    have hnode := copies_children f.bareCopy fun c hc => absurd hc h.childless
    rwa [h.childRefs_eq] at hnode
  | succ d ih => exact copies_children (f.snapshotTo d) fun c hc => ih (h.child hc)

theorem copies_iff (h : ∀ n, ¬ Relation.TransGen f.Nests n n) {s : Snapshot} :
    f.Copies n s ↔ s = f.snapshot n := by
  have hcopies : f.Copies n (f.snapshot n) := copies_snapshotTo (nestsTo_size h n)
  constructor
  · exact fun hs => hs.unique hcopies
  · rintro rfl
    exact hcopies

theorem acyclic_iff_copies : (∀ n, ¬ Relation.TransGen f.Nests n n) ↔ ∀ n, ∃ s, f.Copies n s := by
  constructor
  · exact fun h n => ⟨_, (copies_iff h).2 rfl⟩
  · intro h
    refine acyclic_iff_lists.2 fun n => ?_
    obtain ⟨s, hs⟩ := h n
    exact hs.collects [n]

/-! ## The same nodes -/

/-- Of the same depth, both walks come by the same nodes in the same order. -/
theorem copies_eq_preorderTo (f : Forest) (d : Nat) (n : NodeRef) :
    (f.snapshotTo d n).copies = (f.preorderTo d n).map f.copyNode := by
  induction d generalizing n with
  | zero => rfl
  | succ d ih =>
    rw [snapshotTo, preorderTo, Snapshot.copies, Snapshot.listCopies_eq, List.map_cons, List.flatMap_map,
      List.map_flatMap, funext ih]

theorem copies_snapshot (f : Forest) (n : NodeRef) : (f.snapshot n).copies = (f.preorder n).map f.copyNode :=
  f.copies_eq_preorderTo f.size n

theorem ids_snapshot (f : Forest) (n : NodeRef) : (f.snapshot n).ids = (f.preorder n).map f.idOf := by
  rw [Snapshot.ids_eq, copies_snapshot, List.map_map]
  rfl

end Forest

namespace Archive

variable {a : Archive} {f : Forest} {id : TracerId} {n : NodeRef}

theorem toJson_eq (a : Archive) (f : Forest) : a.toJson f = .array ((a.snapshots f).map Snapshot.toJson) := by
  rw [snapshots, List.map_map]
  rfl

theorem listIds_snapshots (a : Archive) (f : Forest) :
    Snapshot.listIds (a.snapshots f) = (a.nodes f).map f.idOf := by
  rw [Snapshot.listIds_eq, Snapshot.listCopies_eq, snapshots, nodes, List.flatMap_map, funext f.copies_snapshot,
    List.map_flatMap, List.map_flatMap]
  simp only [List.map_map]
  rfl

/-- An id is found if some copy has it. -/
theorem isSome_find?_iff : (a.find? f id).isSome = true ↔ id ∈ Snapshot.listIds (a.snapshots f) := by
  simp [find?, listIds_snapshots]

/-- Where no two nodes share an id, the node that is found is the one that has it. -/
theorem find?_eq_some_iff (hid : ∀ m ∈ a.nodes f, ∀ n ∈ a.nodes f, f.idOf m = f.idOf n → m = n) :
    a.find? f id = some n ↔ n ∈ a.nodes f ∧ f.idOf n = id := by
  have hfound : ∀ {m}, a.find? f id = some m → m ∈ a.nodes f ∧ f.idOf m = id := fun h =>
    ⟨List.mem_of_find?_eq_some h, by simpa using List.find?_some h⟩
  constructor
  · exact hfound
  · rintro ⟨hn, rfl⟩
    have hsome : (a.find? f (f.idOf n)).isSome = true := by
      rw [isSome_find?_iff, listIds_snapshots]
      exact List.mem_map_of_mem hn
    obtain ⟨m, hm⟩ := Option.isSome_iff_exists.1 hsome
    obtain ⟨hmem, he⟩ := hfound hm
    rw [hm, hid m hmem n hn he]

end Archive

namespace Forest

/-- What the walks over a forest have to do with each other, and with those over an archive of its trees. -/
structure WalksAgree (f : Forest) (a : Archive) : Prop where
  /-- Both walks come to an end at every node, with one result. -/
  listed : ∀ n l, f.Lists n l ↔ l = f.preorder n
  copied : ∀ n s, f.Copies n s ↔ s = f.snapshot n
  /-- They come by the same nodes in the same order. -/
  ids : ∀ n, (f.snapshot n).ids = (f.preorder n).map f.idOf
  /-- The copy of each node names those linked to it through tags, in order. -/
  tagLinked : ∀ n, (f.snapshot n).copies.map (fun c => (c.id, c.tagLinked)) =
    (f.preorder n).map fun m => (f.idOf m, (f.get m).tagLinkedRefs.map f.idOf)
  /-- The trees of an archive are walked one after the other. -/
  nodes : ∃ trees, List.Forall₂ f.Lists a.roots trees ∧ a.nodes f = trees.flatten
  snapshots : List.Forall₂ f.Copies a.roots (a.snapshots f)
  exported : a.toJson f = .array ((a.snapshots f).map Snapshot.toJson)
  /-- An id is found if some copy has it, and then its node, unless nodes share their ids. -/
  found : ∀ id, (a.find? f id).isSome = true ↔ id ∈ Snapshot.listIds (a.snapshots f)
  found_eq : (∀ m ∈ a.nodes f, ∀ n ∈ a.nodes f, f.idOf m = f.idOf n → m = n) →
    ∀ id n, a.find? f id = some n ↔ n ∈ a.nodes f ∧ f.idOf n = id

/-- Tracers that are not nested in themselves are listed and copied alike, wherever the links of their tags lead. -/
theorem walksAgree {f : Forest} (h : ∀ n, ¬ Relation.TransGen f.Nests n n) (a : Archive) : f.WalksAgree a where
  listed _ _ := lists_iff h
  copied _ _ := copies_iff h
  ids := f.ids_snapshot
  tagLinked n := by
    rw [copies_snapshot, List.map_map]
    rfl
  nodes := by
    refine ⟨a.roots.map f.preorder, ?_, List.flatMap_def⟩
    exact List.forall₂_map_right_iff.2 (List.forall₂_same.2 fun _ _ => (lists_iff h).2 rfl)
  snapshots := List.forall₂_map_right_iff.2 (List.forall₂_same.2 fun _ _ => (copies_iff h).2 rfl)
  exported := a.toJson_eq f
  found _ := Archive.isSome_find?_iff
  found_eq hid _ _ := Archive.find?_eq_some_iff hid

/-- Two trees. The tags of the first lead from its root to itself and down its own tree, from below up to the root, and
to the other tree, from which one leads back. -/
def tangledForest : Forest :=
  let node (id : TracerId) (children : List (LinkKind × NodeRef)) : Node :=
    { id, owner := ⟨"a"⟩, details := .customService ⟨"method", "service"⟩, state := .ended, children }
  ⟨#[node (.ofNat 1) [(.tagLinked, 3), (.child, 2), (.tagLinked, 0), (.child, 1)], node (.ofNat 2) [(.tagLinked, 0)],
    node (.ofNat 3) [(.tagLinked, 5), (.child, 3)], node (.ofNat 4) [],
    node (.ofNat 5) [(.child, 5), (.tagLinked, 1)], node (.ofNat 6) [(.tagLinked, 2), (.tagLinked, 4)]]⟩

theorem walksAgree_tangledForest :
    let a : Archive := ⟨[4, 0]⟩
    (∀ n, ¬ Relation.TransGen tangledForest.Nests n n) ∧ tangledForest.Holds 0 0 ∧ tangledForest.WalksAgree a ∧
      tangledForest.Lists 0 [0, 2, 3, 1] ∧ (tangledForest.snapshot 0).ids = [1, 3, 4, 2].map TracerId.ofNat ∧
      (tangledForest.snapshot 0).copies.map NodeCopy.tagLinked = [[4, 1], [6], [], [1]].map (·.map TracerId.ofNat) ∧
      a.nodes tangledForest = [4, 5, 0, 2, 3, 1] ∧ a.find? tangledForest (.ofNat 4) = some 3 := by
  intro a
  -- Every tracer comes before those nested in it.
  have hlt : ∀ p c, tangledForest.Nests p c → p < c := by
    intro p c hc
    have hall : ∀ p < 6, ∀ c ∈ (tangledForest.get p).childRefs, p < c := by decide
    exact hall p (lt_size_of_nests hc) c hc
  have h : ∀ n, ¬ Relation.TransGen tangledForest.Nests n n := by
    intro n hn
    have hself : Relation.TransGen (· < ·) n n := Relation.TransGen.mono hlt n n hn
    rw [Relation.transGen_eq_self] at hself
    exact Nat.lt_irrefl n hself
  have hagree := walksAgree h a
  exact ⟨h, ⟨.tagLinked, by decide⟩, hagree, (hagree.listed _ _).2 (by decide), by decide, by decide, by decide,
    (hagree.found_eq (by decide) _ _).2 (by decide)⟩

end Forest

end CallPath
