import CallPath.Proofs.Effects
import CallPath.Proofs.Passes
/-!
# Passes in between make no difference

Trees are appended to an archive one after the other, and passes are made whenever it pleases. A
consumer is linked by the first pass that finds its producer in the archive, so that which pass
links it varies. But all consumers of one producer that are archived by then are linked by the same
pass, in the order of the archive, and later ones stand behind them. So the links come out as if
there had been one pass at the end (`Unresolved.work_eq`).
-/

namespace CallPath

/-- What is done with an archive. -/
inductive ArchiveUse where
  | append (root : NodeRef)
  | pass
  deriving DecidableEq, Repr

namespace ArchiveUse

/-- The root that is appended. -/
def roots : ArchiveUse → List NodeRef
  | append root => [root]
  | pass => []

def isAppend : ArchiveUse → Bool
  | append _ => true
  | pass => false

end ArchiveUse

/-- An archive at work: its trees, the forest, and what the passes so far have reported. -/
structure ArchiveWork where
  archive : Archive := {}
  forest : Forest
  passes : List Resolution := []
  deriving DecidableEq, Repr

namespace ArchiveWork

/-- One more use. -/
def use (w : ArchiveWork) : ArchiveUse → ArchiveWork
  | .append root => { w with archive := w.archive.append root }
  | .pass =>
    let (r, forest) := w.forest.resolvePass w.archive
    { w with forest, passes := w.passes ++ [r] }

/-- The nodes that all passes together have linked. -/
def linked (w : ArchiveWork) : List NodeRef :=
  w.passes.flatMap Resolution.linked

/-- The nodes that the last pass has left unresolved. -/
def unresolved? (w : ArchiveWork) : Option (List NodeRef) :=
  w.passes.getLast?.map Resolution.unresolved

end ArchiveWork

namespace Forest

/-- An archive that starts empty, after some uses. -/
def work (f : Forest) (uses : List ArchiveUse) : ArchiveWork :=
  uses.foldl ArchiveWork.use { forest := f }

/-- Trees with distinct ids, of which no node is resolved. -/
structure Unresolved (f : Forest) (roots : List NodeRef) : Prop where
  bounded : ∀ n ∈ roots.flatMap f.preorder, n < f.size
  distinct : ((roots.flatMap f.preorder).map f.idOf).Nodup
  unresolved : ∀ n ∈ roots.flatMap f.preorder, (f.get n).isResolved = false

theorem eq_of_get {f g : Forest} (hs : g.size = f.size) (h : ∀ m, g.get m = f.get m) : g = f := by
  obtain ⟨ns⟩ := f
  obtain ⟨ms⟩ := g
  congr 1
  apply Array.ext hs
  intro m hm hn
  simpa [get, Array.getD_eq_getD_getElem?, Array.getElem?_eq_getElem hm, Array.getElem?_eq_getElem hn] using h m

theorem Links.childRefs_eq {f g : Forest} {nodes linked : List NodeRef} (h : f.Links nodes linked g) (m : NodeRef) :
    (g.get m).childRefs = (f.get m).childRefs := by
  have hnone : ((f.entriesOf nodes linked m).filter fun c => c.1 = .child) = [] := by
    simp [entriesOf, List.filter_map, Function.comp_def]
  simp [h.get, linkedNode, Node.childRefs, List.filter_append, hnone]

theorem Links.preorder_eq {f g : Forest} {nodes linked : List NodeRef} (h : f.Links nodes linked g) :
    g.preorder = f.preorder :=
  funext (preorder_congr h.size h.childRefs_eq)

theorem Links.unique {f g g' : Forest} {nodes linked : List NodeRef} (h : f.Links nodes linked g)
    (h' : f.Links nodes linked g') : g' = g :=
  eq_of_get (h'.size.trans h.size.symm) fun m => (h'.get m).trans (h.get m).symm

/-! ## Two passes in a row -/

section

variable {f g : Forest} {old new : List NodeRef} {n p : NodeRef}

theorem producerAmong_append (hd : ((old ++ new).map f.idOf).Nodup) (h : f.producerAmong old n = some p) :
    f.producerAmong (old ++ new) n = some p := by
  obtain ⟨hp, hid⟩ := producerAmong_some h
  exact (producerAmong_eq_some_iff hd).2 ⟨List.mem_append_left _ hp, hid⟩

theorem producerAmong_of_append (hd : ((old ++ new).map f.idOf).Nodup) (hp : p ∈ old)
    (h : f.producerAmong (old ++ new) n = some p) : f.producerAmong old n = some p := by
  rw [List.map_append] at hd
  exact (producerAmong_eq_some_iff (List.nodup_append.1 hd).1).2 ⟨hp, (producerAmong_some h).2⟩

theorem canLink_append (hd : ((old ++ new).map f.idOf).Nodup) (h : f.canLink old n = true) :
    f.canLink (old ++ new) n = true := by
  simp only [canLink, Bool.and_eq_true, Option.isSome_iff_exists] at h ⊢
  obtain ⟨hpend, p, hp⟩ := h
  exact ⟨hpend, p, producerAmong_append hd hp⟩

/-- A second pass over more nodes, none of which was resolved before the first. -/
structure Again (f : Forest) (old new : List NodeRef) (g : Forest) : Prop where
  first : f.Links old (f.linkable old) g
  distinct : ((old ++ new).map f.idOf).Nodup
  unresolved : ∀ n ∈ old ++ new, (f.get n).isResolved = false

namespace Again

variable (h : f.Again old new g)

include h

theorem isStuck_eq (n : NodeRef) : g.isStuck (old ++ new) n = f.isStuck (old ++ new) n := by
  unfold isStuck
  rw [h.first.isPending_eq, h.first.producerAmong]
  by_cases hn : n ∈ f.linkable old
  · -- The first pass found its producer, which is still there.
    obtain ⟨-, -, p, hp⟩ := mem_linkable.1 hn
    simp [producerAmong_append h.distinct hp]
  · simp [hn]

theorem canLink_eq (n : NodeRef) : g.canLink (old ++ new) n =
    (f.canLink (old ++ new) n && !decide (n ∈ f.linkable old)) := by
  unfold canLink
  rw [h.first.isPending_eq, h.first.producerAmong]
  ac_rfl

theorem stuck_eq : g.stuck (old ++ new) = f.stuck (old ++ new) := by
  apply List.filter_congr
  intro n _
  exact h.isStuck_eq n

theorem linkable_eq :
    g.linkable (old ++ new) = (f.linkable (old ++ new)).filter fun n => !decide (n ∈ f.linkable old) := by
  show (old ++ new).filter _ = ((old ++ new).filter _).filter _
  rw [List.filter_filter]
  apply List.filter_congr
  intro n _
  rw [h.canLink_eq, Bool.and_comm]

theorem disjoint : ∀ n ∈ old, n ∉ new := by
  intro n hn hn'
  have hd := h.distinct
  rw [List.map_append] at hd
  exact (List.nodup_append.1 hd).2.2 _ (List.mem_map_of_mem hn) _ (List.mem_map_of_mem hn') rfl

theorem not_linkable_of_new (hn : n ∈ new) : n ∉ f.linkable old := by
  intro hm
  exact h.disjoint n (mem_linkable.1 hm).1 hn

/-- One pass would link all that the first pass has linked. -/
theorem filter_linkable :
    (f.linkable (old ++ new)).filter (fun n => decide (n ∈ f.linkable old)) = f.linkable old := by
  show ((old ++ new).filter _).filter _ = old.filter _
  have hnone : new.filter (fun n => decide (n ∈ f.linkable old) && f.canLink (old ++ new) n) = [] := by
    rw [List.filter_eq_nil_iff]
    intro n hn
    simp [h.not_linkable_of_new hn]
  rw [List.filter_filter, List.filter_append, hnone, List.append_nil]
  apply List.filter_congr
  intro n hn
  cases hc : f.canLink old n with
  | true => simp [linkable, hn, hc, canLink_append h.distinct hc]
  | false => simp [linkable, hc]

/-- The two passes together link what one pass would. -/
theorem linked_perm : (f.linkable old ++ g.linkable (old ++ new)).Perm (f.linkable (old ++ new)) := by
  have hsplit := List.filter_append_perm (fun n => decide (n ∈ f.linkable old)) (f.linkable (old ++ new))
  rwa [h.filter_linkable, ← h.linkable_eq] at hsplit

/-- The first pass has linked all old consumers of an old producer. -/
theorem mem_linkable_iff_of_old (hp : p ∈ old) (hn : n ∈ old) (h' : f.producerAmong (old ++ new) n = some p) :
    n ∈ f.linkable old ↔ f.canLink (old ++ new) n = true := by
  have hold := producerAmong_of_append h.distinct hp h'
  simp [mem_linkable, canLink, hn, h', hold]

/-- And they leave the entries of each producer in the same order. -/
theorem entriesOf_eq (p : NodeRef) : f.entriesOf old (f.linkable old) p ++
      f.entriesOf (old ++ new) (g.linkable (old ++ new)) p =
    f.entriesOf (old ++ new) (f.linkable (old ++ new)) p := by
  unfold entriesOf linkable
  rw [← List.map_append]
  congr 1
  simp only [List.filter_filter]
  by_cases hp : p ∈ old
  · have hfound : ∀ n, f.producerAmong (old ++ new) n = some p ↔ f.producerAmong old n = some p := fun n =>
      ⟨producerAmong_of_append h.distinct hp, producerAmong_append h.distinct⟩
    have hdone : old.filter (fun n => decide (f.producerAmong (old ++ new) n = some p) && g.canLink (old ++ new) n)
        = [] := by
      rw [List.filter_eq_nil_iff]
      intro n hn hc
      simp only [Bool.and_eq_true, decide_eq_true_eq, h.canLink_eq, Bool.not_eq_true', decide_eq_false_iff_not] at hc
      exact hc.2.2 ((h.mem_linkable_iff_of_old hp hn hc.1).2 hc.2.1)
    rw [List.filter_append, List.filter_append, hdone, List.nil_append]
    congr 1
    · apply List.filter_congr
      intro n hn
      by_cases hn' : f.producerAmong old n = some p
      · simp [hn', (hfound n).2 hn', canLink]
      · simp [hn', hfound]
    · apply List.filter_congr
      intro n hn
      rw [h.canLink_eq, decide_eq_false (h.not_linkable_of_new hn)]
      simp
  · -- The first pass could not find `p`.
    have hnone : old.filter (fun n => decide (f.producerAmong old n = some p) && f.canLink old n) = [] := by
      rw [List.filter_eq_nil_iff]
      intro n _ hc
      simp only [Bool.and_eq_true, decide_eq_true_eq] at hc
      exact hp (producerAmong_some hc.1).1
    rw [hnone, List.nil_append]
    apply List.filter_congr
    intro n _
    by_cases hn : f.producerAmong (old ++ new) n = some p
    · have hnot : n ∉ f.linkable old := by
        intro hm
        obtain ⟨-, -, q, hq⟩ := mem_linkable.1 hm
        rw [producerAmong_append h.distinct hq, Option.some.injEq] at hn
        exact hp (hn ▸ (producerAmong_some hq).1)
      rw [h.canLink_eq, decide_eq_false hnot]
      simp
    · simp [hn]

theorem links {g' : Forest} (h' : g.Links (old ++ new) (g.linkable (old ++ new)) g') :
    f.Links (old ++ new) (f.linkable (old ++ new)) g' := by
  refine ⟨h'.size.trans h.first.size, ?_⟩
  intro m
  have hentries : g.entriesOf (old ++ new) (g.linkable (old ++ new)) m =
      f.entriesOf (old ++ new) (g.linkable (old ++ new)) m := by
    unfold entriesOf
    simp only [h.first.producerAmong]
  have hmem := h.linked_perm.mem_iff (a := m)
  rw [List.mem_append] at hmem
  rw [h'.get, linkedNode, hentries, h.first.producerAmong, h.first.get]
  unfold linkedNode
  rw [← h.entriesOf_eq m, List.append_assoc]
  congr 1
  by_cases hold : m ∈ f.linkable old
  · -- A consumer keeps the producer that the first pass has found.
    obtain ⟨-, -, q, hq⟩ := mem_linkable.1 hold
    rw [if_pos hold, if_pos (hmem.1 (.inl hold)), producerAmong_append h.distinct hq, hq, ite_self]
  · by_cases hnew : m ∈ g.linkable (old ++ new)
    · rw [if_pos hnew, if_pos (hmem.1 (.inr hnew))]
    · rw [if_neg hnew, if_neg hold, if_neg fun hm => (hmem.2 hm).elim hold hnew]

end Again

end

/-! ## Any number of passes -/

theorem Unresolved.of_append {f : Forest} {roots roots' : List NodeRef} (h : f.Unresolved (roots ++ roots')) :
    f.Unresolved roots := by
  obtain ⟨hb, hd, hu⟩ := h
  rw [List.flatMap_append] at hb hd hu
  rw [List.map_append] at hd
  exact ⟨fun n hn => hb n (List.mem_append_left _ hn), (List.nodup_append.1 hd).1,
    fun n hn => hu n (List.mem_append_left _ hn)⟩

/-- An archive whose last pass was made when it held the trees `old`. -/
structure CaughtUp (f : Forest) (old new : List NodeRef) (w : ArchiveWork) : Prop where
  archive : w.archive = ⟨old ++ new⟩
  links : f.Links (old.flatMap f.preorder) (f.linkable (old.flatMap f.preorder)) w.forest
  linked : w.linked.Perm (f.linkable (old.flatMap f.preorder))

/-- A pass catches up with all trees, as if it were the only one. -/
theorem CaughtUp.pass {f : Forest} {old new : List NodeRef} {w : ArchiveWork} (h : f.CaughtUp old new w)
    (hu : f.Unresolved (old ++ new)) : f.CaughtUp (old ++ new) [] (w.use .pass) ∧ (w.use .pass).unresolved? =
      some (f.stuck ((old ++ new).flatMap f.preorder)) := by
  obtain ⟨ha, hl, hp⟩ := h
  obtain ⟨hb, hd, hr⟩ := hu
  have hnodes : w.archive.nodes w.forest = old.flatMap f.preorder ++ new.flatMap f.preorder := by
    rw [ha, Archive.nodes, hl.preorder_eq, List.flatMap_append]
  simp only [List.flatMap_append] at hb hd hr ⊢
  have hagain : f.Again (old.flatMap f.preorder) (new.flatMap f.preorder) w.forest := ⟨hl, hd, hr⟩
  have hn : (w.archive.nodes w.forest).Nodup := by
    rw [hnodes]
    exact hd.of_map
  have hlt : ∀ n ∈ w.archive.nodes w.forest, n < w.forest.size := by
    rw [hnodes, hl.size]
    exact hb
  have hreport := resolvePass_eq hn hlt
  have hafter := links_resolvePass hn hlt
  rw [hnodes] at hreport hafter
  refine ⟨⟨by simp [ArchiveWork.use, ha], ?_, ?_⟩, ?_⟩
  · rw [List.flatMap_append]
    exact hagain.links hafter
  · rw [List.flatMap_append]
    have hlinked : (w.use .pass).linked = w.linked ++ (w.forest.resolvePass w.archive).1.linked := by
      simp [ArchiveWork.use, ArchiveWork.linked]
    rw [hlinked, hreport]
    exact (hp.append_right _).trans hagain.linked_perm
  · simp only [ArchiveWork.use, ArchiveWork.unresolved?, List.getLast?_concat, Option.map_some, hreport]
    rw [hagain.stuck_eq]

theorem work_caughtUp {f : Forest} {uses : List ArchiveUse} (h : f.Unresolved (uses.flatMap ArchiveUse.roots)) :
    ∃ old new, uses.flatMap ArchiveUse.roots = old ++ new ∧ f.CaughtUp old new (f.work uses) := by
  induction uses using List.reverseRecOn with
  | nil => exact ⟨[], [], rfl, rfl, .none f [], .refl _⟩
  | append_singleton uses u ih =>
    rw [List.flatMap_append] at h
    obtain ⟨old, new, hroots, hc⟩ := ih h.of_append
    rw [List.flatMap_append, List.flatMap_singleton, hroots, work, List.foldl_append]
    cases u with
    | append root =>
      have ha : ((f.work uses).use (.append root)).archive = ⟨old ++ (new ++ [root])⟩ := by
        simp only [ArchiveWork.use, Archive.append, hc.archive, List.append_assoc]
      exact ⟨old, new ++ [root], by simp [ArchiveUse.roots], ha, hc.links, hc.linked⟩
    | pass => exact ⟨old ++ new, [], by simp [ArchiveUse.roots], (hc.pass (hroots ▸ h.of_append)).1⟩

/-- An archive and its forest after a last pass, whatever passes there were before. -/
theorem work_snoc_pass {f : Forest} {uses : List ArchiveUse} {nodes : List NodeRef}
    (h : f.Unresolved (uses.flatMap ArchiveUse.roots))
    (hn : nodes = (uses.flatMap ArchiveUse.roots).flatMap f.preorder) :
    (f.work (uses ++ [.pass])).archive = ⟨uses.flatMap ArchiveUse.roots⟩ ∧
      f.Links nodes (f.linkable nodes) (f.work (uses ++ [.pass])).forest ∧
      (f.work (uses ++ [.pass])).unresolved? = some (f.stuck nodes) ∧
      (f.work (uses ++ [.pass])).linked.Perm (f.linkable nodes) := by
  obtain ⟨old, new, hroots, hc⟩ := work_caughtUp h
  obtain ⟨hc', hstuck⟩ := hc.pass (hroots ▸ h)
  rw [← hroots, ← hn] at hstuck
  obtain ⟨ha, hl, hp⟩ := hc'
  rw [← hroots, ← hn] at hl hp
  have hwork : f.work (uses ++ [.pass]) = (f.work uses).use .pass := by
    rw [work, List.foldl_append]
    rfl
  rw [hwork]
  exact ⟨by rw [ha, hroots, List.append_nil], hl, hstuck, hp⟩

theorem flatMap_roots_filter (uses : List ArchiveUse) :
    (uses.filter ArchiveUse.isAppend).flatMap ArchiveUse.roots = uses.flatMap ArchiveUse.roots := by
  induction uses with
  | nil => rfl
  | cons u uses ih =>
    cases u with
    | append root =>
      rw [List.filter_cons_of_pos rfl, List.flatMap_cons, List.flatMap_cons, ih]
    | pass =>
      rw [List.filter_cons_of_neg (by simp [ArchiveUse.isAppend]), List.flatMap_cons, ih]
      rfl

/-- However passes and appends alternate, after a pass at the end every node is as if that had been
the only one; it leaves the same nodes unresolved, and all passes together have linked the same. -/
theorem Unresolved.work_eq {f : Forest} {uses : List ArchiveUse} (h : f.Unresolved (uses.flatMap ArchiveUse.roots)) :
    let often := f.work (uses ++ [.pass])
    let once := f.work (uses.filter ArchiveUse.isAppend ++ [.pass])
    often.forest = once.forest ∧ often.archive = once.archive ∧ often.unresolved? = once.unresolved? ∧
      often.linked.Perm once.linked := by
  have h' : f.Unresolved ((uses.filter ArchiveUse.isAppend).flatMap ArchiveUse.roots) := by
    rwa [flatMap_roots_filter]
  obtain ⟨ha, hl, hs, hp⟩ := work_snoc_pass h rfl
  obtain ⟨ha', hl', hs', hp'⟩ := work_snoc_pass h' rfl
  rw [flatMap_roots_filter] at ha' hl' hs' hp'
  exact ⟨hl'.unique hl, ha.trans ha'.symm, hs.trans hs'.symm, hp.trans hp'.symm⟩

/-- The tag of the first tracer was given to two others, and the tag of one of these to a tracer
inside the first. The tags of the last two name nobody. -/
def crossedForest : Forest :=
  let node (id : TracerId) (receipt : TagReceipt) (children : List (LinkKind × NodeRef)) : Node :=
    { id, owner := ⟨"a"⟩, details := .customService ⟨"method", "service"⟩, state := .ended, receipt, children }
  ⟨#[node (.ofNat 1) .absent [(.child, 1)], node (.ofNat 2) (.carries (.ofNat 3)) [],
    node (.ofNat 3) (.carries (.ofNat 1)) [], node (.ofNat 4) (.carries (.ofNat 1)) [],
    node (.ofNat 5) (.carries (.ofNat 9)) [], node (.ofNat 6) .undecodable []]⟩

theorem work_eq_crossedForest :
    let uses := [.append 5, .append 0, .append 3, .pass, .append 2, .pass, .pass, .append 4]
    crossedForest.Unresolved (uses.flatMap ArchiveUse.roots) ∧
      (crossedForest.work (uses ++ [.pass])).linked = [3, 1, 2] ∧
      (crossedForest.work (uses.filter ArchiveUse.isAppend ++ [.pass])).linked = [1, 3, 2] ∧
      (crossedForest.work (uses ++ [.pass])).forest =
        (crossedForest.work (uses.filter ArchiveUse.isAppend ++ [.pass])).forest ∧
      (crossedForest.work (uses ++ [.pass])).unresolved? = some [5, 4] := by
  intro uses
  have h : crossedForest.Unresolved (uses.flatMap ArchiveUse.roots) := ⟨by decide, by decide, by decide⟩
  exact ⟨h, by decide, by decide, (Unresolved.work_eq h).1, by decide⟩

end Forest

end CallPath
