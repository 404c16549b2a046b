import CallPath.Proofs.Conservation
import CallPath.Proofs.Frames
import CallPath.Proofs.Lasting
import CallPath.Proofs.Passes
import CallPath.Proofs.Protocol
import Mathlib.Algebra.Ring.Nat
/-!
# Tags are resolved once

A link through a tag is stored twice, as the producer of the consumer and as an entry among the
children of the producer. In every session the two agree (`Run.linksFit`). A node is linked by one
pass at most, and only passes link nodes, so that all passes of a run together have linked each
resolved node once and no other (`Run.mem_linked_iff`). `Run.linkedOnce` puts this together.
-/

namespace CallPath

/-- Every link through a tag, as the producer and the consumer. -/
def Forest.tagLinks (f : Forest) : List (NodeRef × NodeRef) :=
  (List.range f.size).flatMap fun p => (f.get p).tagLinkedRefs.map fun n => (p, n)

/-- What a node has to do with links. -/
def Node.links (m : Node) : Option NodeRef × List NodeRef :=
  (m.producer, m.tagLinkedRefs)

theorem Node.links_inert : Node.Inert Node.links where
  enter _ _ _ := rfl
  nest m c := by simp [links, tagLinkedRefs, link, List.filter_append]
  fields _ _ _ _ := rfl
  failed _ _ := rfl
  attributes _ _ := rfl
  held _ _ := rfl

theorem Forest.mem_tagLinks {f : Forest} {p n : NodeRef} :
    (p, n) ∈ f.tagLinks ↔ n ∈ (f.get p).tagLinkedRefs := by
  simp only [tagLinks, List.mem_flatMap, List.mem_range, List.mem_map, Prod.mk.injEq]
  constructor
  · rintro ⟨q, -, m, hm, rfl, rfl⟩
    exact hm
  · intro hn
    refine ⟨p, ?_, n, hn, rfl, rfl⟩
    by_contra hp
    rw [get_of_size_le (Nat.le_of_not_lt hp)] at hn
    cases hn

/-! ## The trees of an archive -/

namespace Session

/-- The archive holds separate trees. -/
structure Filed (s : Session) : Prop where
  nodup : s.archive.roots.Nodup
  root : ∀ r ∈ s.archive.roots, s.forest.IsRoot r

theorem Filed.of_same {s s' : Session} (h : s.Filed) (ha : s'.archive = s.archive)
    (hc : ∀ n, (s'.forest.get n).childRefs = (s.forest.get n).childRefs) : s'.Filed := by
  obtain ⟨hn, hr⟩ := h
  rw [← ha] at hn hr
  exact ⟨hn, fun r h => (Forest.isRoot_congr hc r).2 (hr r h)⟩

end Session

theorem Effect.filed {t : Thread} {s s' : Session} {ms : List Mark} (he : Effect t s ms s') (hs : s.Sound)
    (h : s.Filed) : s'.Filed := by
  cases he.shift hs with
  | steady _ k => exact h.of_same k.archive k.childRefs
  | begun n _ _ hst _ =>
    refine ⟨h.nodup, ?_⟩
    intro r hr p hp
    rcases (Session.nests_begun hs hst p r).1 hp with hp | ⟨-, rfl⟩
    · exact h.root r hr p hp
    · -- The tracer that starts now is in no completed tree.
      have hbegun := (hs.archived r hr).1
      simp [hs.fresh r hst] at hbegun
  | unwound n rest _ _ => exact h.of_same rfl (Session.get_unwound_same (fun _ _ => rfl) s t n rest)
  | completed n hr =>
    obtain ⟨hf, -, -, -, ha⟩ := Session.completePath_same (s.unwound t n []) n
    have hsame := Session.get_unwound_same (p := Node.childRefs) (fun _ _ => rfl) s t n []
    rw [← hf] at hsame
    have hroot : (s.paths.get t).root? = some n := by simp [Path.root?, hr]
    split at ha
    · constructor
      · have hnot : n ∉ s.archive.roots := by
          intro hn
          have hended := (hs.archived n hn).2
          simp [Session.started_of_root hs hroot] at hended
        rw [ha]
        show (s.archive.roots ++ [n]).Nodup
        exact h.nodup.append (by simp) (by simpa using hnot)
      · intro r hr'
        rw [ha] at hr'
        rw [Forest.isRoot_congr hsame]
        rcases List.mem_append.1 hr' with hr' | hr'
        · exact h.root r hr'
        · rw [List.mem_singleton.1 hr']
          exact Session.Tally.isRoot_of_live hs hroot
    · exact h.of_same ha hsame
  | emptied => exact ⟨List.nodup_nil, by simp⟩

namespace Session.Sound

variable {s : Session} (h : s.Sound)

include h

theorem begun_of_archived {n : NodeRef} (hn : n ∈ s.archive.nodes s.forest) :
    (s.forest.get n).hasStartTime = true := by
  obtain ⟨r, hr, hn⟩ := List.mem_flatMap.1 hn
  cases (Forest.below_of_mem_preorder hn).cases_tail with
  | inl e =>
    rw [e]
    exact (h.archived r hr).1
  | inr hp => exact (h.joined _ _ hp.choose_spec.2).inner

theorem lt_of_archived {n : NodeRef} (hn : n ∈ s.archive.nodes s.forest) : n < s.forest.size := by
  have htime := h.begun_of_archived hn
  by_contra hlt
  rw [Forest.get_of_size_le (Nat.le_of_not_lt hlt)] at htime
  cases htime

theorem archived_nodup (hf : s.Filed) : (s.archive.nodes s.forest).Nodup :=
  h.nesting.nodup_flatMap_preorder hf.nodup hf.root

end Session.Sound

/-! ## Producers and entries agree -/

namespace Session

/-- A new tracer has no links, and neither has what was read in its place. -/
theorem create_links {s : Session} (t : Thread) (id : TracerId) (d : Details) :
    s.Keeps Node.links (s.create t id d).2 := by
  intro m
  rw [get_create]
  split
  · rename_i e
    rw [e, Forest.get_of_size_le (Nat.le_refl _)]
    rfl
  · rfl

/-- How the producers of nodes and the entries among their children agree. -/
structure LinksFit (s : Session) : Prop where
  entry_iff : ∀ p n, n ∈ (s.forest.get p).tagLinkedRefs ↔ (s.forest.get n).producer = some p
  nodup : ∀ p, (s.forest.get p).tagLinkedRefs.Nodup
  resolved : ∀ n p, (s.forest.get n).producer = some p → (s.forest.get n).state = .ended ∧
    p < s.forest.size ∧ (s.forest.get n).receipt.id? = some (s.forest.idOf p)

variable {s s' : Session}

theorem lt_of_producer {n p : NodeRef} (h : (s.forest.get n).producer = some p) : n < s.forest.size := by
  by_contra hlt
  rw [Forest.get_of_size_le (Nat.le_of_not_lt hlt)] at h
  cases h

/-- A session without new links. -/
theorem LinksFit.keep (h : s.LinksFit) (hk : Keeps Node.links s s') (hl : s.forest.Later s'.forest) : s'.LinksFit := by
  have hproducer : ∀ n, (s'.forest.get n).producer = (s.forest.get n).producer := fun n => congrArg Prod.fst (hk n)
  have hentries : ∀ p, (s'.forest.get p).tagLinkedRefs = (s.forest.get p).tagLinkedRefs := fun p =>
    congrArg Prod.snd (hk p)
  refine ⟨?_, ?_, ?_⟩
  · intro p n
    rw [hentries, hproducer]
    exact h.entry_iff p n
  · intro p
    rw [hentries]
    exact h.nodup p
  · intro n p hp
    rw [hproducer] at hp
    obtain ⟨hst, hlt, hid⟩ := h.resolved n p hp
    have hn := hl.node n (lt_of_producer hp)
    refine ⟨hn.ended hst, Nat.lt_of_lt_of_le hlt hl.size, ?_⟩
    rw [hn.receipt (.inl (by simp [hst])), hid]
    exact congrArg some (hl.node p hlt).id.symm

/-- One more link, between nodes of the archive. -/
theorem LinksFit.link (h : s.LinksFit) (hs : s.Sound) {c p : NodeRef} (hc : c ∈ s.archive.nodes s.forest)
    (hp : p ∈ s.archive.nodes s.forest) (hid : (s.forest.get c).receipt.id? = some (s.forest.idOf p))
    (hr : (s.forest.get c).isResolved = false) : LinksFit { s with forest := s.forest.resolve c p } := by
  have hget := Forest.get_resolve (hs.lt_of_archived hc) (hs.lt_of_archived hp)
  have hnone : (s.forest.get c).producer = none := by simpa [Node.isResolved] using hr
  have hnew : ∀ q, c ∉ (s.forest.get q).tagLinkedRefs := by
    intro q hq
    rw [h.entry_iff, hnone] at hq
    cases hq
  have hentries : ∀ q, ((s.forest.resolve c p).get q).tagLinkedRefs =
      (s.forest.get q).tagLinkedRefs ++ if q = p then [c] else [] := by
    intro q
    rw [hget]
    by_cases e : q = p <;> simp [Node.tagLinkedRefs, e]
  have hproducer : ∀ n, ((s.forest.resolve c p).get n).producer =
      if n = c then some p else (s.forest.get n).producer := by
    intro n
    rw [hget]
  refine ⟨?_, ?_, ?_⟩
  · intro q n
    rw [hentries, hproducer, List.mem_append, h.entry_iff]
    by_cases hn : n = c
    · subst hn
      simp [hnone, @eq_comm _ p q]
    · by_cases e : q = p <;> simp [hn, e]
  · intro q
    rw [hentries]
    split
    · exact List.Nodup.append (h.nodup q) (by simp) (by simpa using hnew q)
    · simpa using h.nodup q
  · intro n q hq
    have hsame : ((s.forest.resolve c p).get n).state = (s.forest.get n).state ∧
        ((s.forest.resolve c p).get n).receipt = (s.forest.get n).receipt ∧
          (s.forest.resolve c p).idOf q = s.forest.idOf q := by
      refine ⟨by rw [hget], by rw [hget], ?_⟩
      unfold Forest.idOf
      rw [hget]
    show ((s.forest.resolve c p).get n).state = _ ∧ q < (s.forest.resolve c p).size ∧ _ = some _
    rw [Forest.size_resolve, hsame.1, hsame.2.1, hsame.2.2]
    simp only [hproducer] at hq
    split at hq
    · rename_i e
      obtain rfl : p = q := Option.some.inj hq
      subst e
      exact ⟨hs.ended_of_archived hc, hs.lt_of_archived hp, hid⟩
    · exact h.resolved n q hq

end Session

/-- All effects but links keep the links. -/
theorem Effect.links_cases {t : Thread} {s s' : Session} {ms : List Mark} (he : Effect t s ms s') :
    s.Keeps Node.links s' ∨ ∃ c p, c ∈ s.archive.nodes s.forest ∧ p ∈ s.archive.nodes s.forest ∧
      (s.forest.get c).receipt.id? = some (s.forest.idOf p) ∧ (s.forest.get c).isResolved = false ∧
      s' = { s with forest := s.forest.resolve c p } := by
  have hi := Node.links_inert
  cases he with
  | linked c p hc hp hid hr => exact .inr ⟨c, p, hc, hp, hid, hr, rfl⟩
  | created id d _ => exact .inl (Session.create_links t id d)
  | begun n _ _ _ _ =>
    left
    intro m
    exact (Forest.get_modify_same (fun m => hi.enter m _ _) _ n m).trans (Forest.get_nest_same hi.nest s.forest _ n m)
  | completed n _ _ _ _ =>
    exact .inl (.of_modify (fun m => hi.enter m _ _) (Session.completePath_same (s.unwound t n []) n).1)
  | unwound n rest _ _ _ _ _ => exact .inl (.of_modify (fun m => hi.enter m _ _) rfl)
  | finished n _ _ _ => exact .inl (.of_modify (fun m => hi.enter m _ _) rfl)
  | discarded n _ _ _ => exact .inl (.of_modify (fun m => hi.enter m _ _) rfl)
  | released n _ => exact .inl (.of_modify (fun m => hi.held m _) rfl)
  | updated n u d _ _ _ _ _ => exact .inl (.of_modify (g := fun m => { m with details := d }) (fun _ => rfl) rfl)
  | failed n c m _ _ _ _ _ => exact .inl (.of_modify (fun m => hi.failed m _) rfl)
  | tagged n tag _ _ _ _ =>
    exact .inl (.of_modify (g := fun m => { m with receipt := .ofDecoded tag.decode }) (fun _ => rfl) rfl)
  | attributed n k v _ _ =>
    exact .inl (.of_modify (g := fun m => { m with attributes := m.attributes ++ [(k, v)] }) (fun _ => rfl) rfl)
  | _ => exact .inl (.of_forest rfl)

theorem Effect.linksFit {t : Thread} {s s' : Session} {ms : List Mark} (he : Effect t s ms s') (hs : s.Sound)
    (h : s.LinksFit) : s'.LinksFit := by
  rcases he.links_cases with hk | ⟨c, p, hc, hp, hid, hr, rfl⟩
  · exact h.keep hk he.later
  · exact h.link hs hc hp hid hr

theorem Run.filed {s₀ s : Session} {log : List Step} (h : Run s₀ s log) (h0 : s₀.IsNew) : s.Filed := by
  refine (h.inv (I := fun s => s.Sound ∧ s.Filed) (fun t s ms s' he hI => ⟨he.sound hI.1, he.filed hI.1 hI.2⟩)
    ⟨h0.sound, ?_⟩).2
  constructor <;> rw [h0.archive]
  · exact List.nodup_nil
  · simp

theorem Run.linksFit {s₀ s : Session} {log : List Step} (h : Run s₀ s log) (h0 : s₀.IsNew) : s.LinksFit := by
  refine (h.inv (I := fun s => s.Sound ∧ s.LinksFit)
    (fun t s ms s' he hI => ⟨he.sound hI.1, he.linksFit hI.1 hI.2⟩) ⟨h0.sound, ?_⟩).2
  have hnode := h0.get_forest
  refine ⟨?_, ?_, ?_⟩
  · intro p n
    rw [hnode, hnode]
    simp [Node.blank, Node.tagLinkedRefs]
  · intro p
    rw [hnode]
    exact List.nodup_nil
  · intro n p hp
    rw [hnode] at hp
    cases hp

/-! ## Passes -/

/-- Whether a command makes a resolution pass. -/
def Command.isPass : Command → Bool
  | resolvePending | resolve _ => true
  | _ => false

namespace Step

/-- The nodes that the command linked, which only passes do. -/
def linked (x : Step) : List NodeRef :=
  match x.command, x.reply with
  | .resolvePending, _ => (x.before.forest.resolvePass x.before.archive).1.linked
  | .resolve _, .resolution r => r.linked
  | _, _ => []

variable {x : Step}

theorem pass_eq (hc : x.command.isPass = true) :
    x.after.forest = (x.before.forest.resolvePass x.before.archive).2 ∧
      x.linked = (x.before.forest.resolvePass x.before.archive).1.linked := by
  obtain ⟨s, t, c⟩ := x
  cases c with
  | resolvePending => exact ⟨rfl, rfl⟩
  | resolve w =>
    refine ⟨?_, rfl⟩
    show (s.resolve w).2.forest = _
    unfold Session.resolve
    dsimp only
    split
    · exact Session.warnUnresolved_forest _
    · rfl
  | _ => cases hc

/-- Any other command keeps the links. -/
theorem keeps_links (hc : x.command.isPass = false) : x.before.Keeps Node.links x.after ∧ x.linked = [] := by
  obtain ⟨s, t, c⟩ := x
  have hi := Node.links_inert
  have hr : ∀ (m : Node) receipt, ({ m with receipt } : Node).links = m.links := fun _ _ => rfl
  by_cases hw : c.isWork = true
  · refine ⟨Session.perform_keeps hi s t hw, ?_⟩
    cases c <;> first | rfl | cases hw
  · cases c with
    | create id d => exact ⟨Session.create_links t id d, rfl⟩
    | trace id op o => exact ⟨Session.trace_keeps hi.toUntouched hr (Session.create_links t id) op o, rfl⟩
    | setIncomingTag n tag => exact ⟨Session.setIncomingTag_keeps hr tag, rfl⟩
    | applyIncomingTags n tags => exact ⟨Session.applyIncomingTags_keeps hr tags, rfl⟩
    | resolvePending => cases hc
    | resolve w => cases hc
    | _ => exact absurd rfl hw

/-- What a command links was not resolved before it, and is afterwards. -/
theorem linked_spec (hs : x.before.Sound) (hf : x.before.Filed) : x.linked.Nodup ∧
    (∀ n ∈ x.linked, (x.before.forest.get n).isResolved = false) ∧
    ∀ n, (x.after.forest.get n).isResolved = true ↔ (x.before.forest.get n).isResolved = true ∨ n ∈ x.linked := by
  cases hc : x.command.isPass with
  | false =>
    obtain ⟨hk, hl⟩ := keeps_links hc
    have hproducer : ∀ n, (x.after.forest.get n).producer = (x.before.forest.get n).producer := fun n =>
      congrArg Prod.fst (hk n)
    rw [hl]
    exact ⟨List.nodup_nil, by simp, fun n => by simp [Node.isResolved, hproducer]⟩
  | true =>
    obtain ⟨hforest, hlinked⟩ := pass_eq hc
    have hn := hs.archived_nodup hf
    have hb : ∀ n ∈ x.before.archive.nodes x.before.forest, n < x.before.forest.size := fun n => hs.lt_of_archived
    rw [hlinked, hforest, Forest.resolvePass_eq hn hb]
    refine ⟨hn.filter _, ?_, ?_⟩
    · intro n hl
      obtain ⟨-, hpending, -⟩ := Forest.mem_linkable.1 hl
      simp only [Forest.isPending, Bool.and_eq_true, Bool.not_eq_true'] at hpending
      exact hpending.2
    · intro n
      rw [(Forest.links_resolvePass hn hb).get]
      by_cases hl : n ∈ x.before.forest.linkable (x.before.archive.nodes x.before.forest)
      · obtain ⟨-, -, p, hp⟩ := Forest.mem_linkable.1 hl
        simp [Forest.linkedNode, Node.isResolved, hl, hp]
      · simp [Forest.linkedNode, Node.isResolved, hl]

end Step

/-- All commands of a run together have linked each resolved node once, and no other. -/
theorem Run.mem_linked_iff {s₀ s : Session} {log : List Step} (h : Run s₀ s log) (h0 : s₀.IsNew) :
    (log.flatMap Step.linked).Nodup ∧
      ∀ n, n ∈ log.flatMap Step.linked ↔ (s.forest.get n).isResolved = true := by
  induction h with
  | nil =>
    refine ⟨List.nodup_nil, ?_⟩
    intro n
    rw [h0.get_forest]
    simp [Node.blank, Node.isResolved]
  | @step s log t c h _ ih =>
    obtain ⟨hnodup, hmem⟩ := ih
    obtain ⟨hn, hnew, hafter⟩ := Step.linked_spec (x := ⟨s, t, c⟩) (h.sound h0) (h.filed h0)
    rw [List.flatMap_append, List.flatMap_singleton]
    refine ⟨List.Nodup.append hnodup hn ?_, ?_⟩
    · intro n hl hl'
      have hres := (hmem n).1 hl
      rw [hnew n hl'] at hres
      cases hres
    · intro n
      rw [List.mem_append, hmem]
      exact (hafter n).symm

/-! ## Links, passes and tags -/

namespace Session

variable {s : Session}

namespace LinksFit

variable (h : s.LinksFit)

include h

theorem mem_tagLinks {p n : NodeRef} : (p, n) ∈ s.forest.tagLinks ↔ (s.forest.get n).producer = some p := by
  rw [Forest.mem_tagLinks, h.entry_iff]

theorem consumers_nodup : (s.forest.tagLinks.map Prod.snd).Nodup := by
  have hlinks : s.forest.tagLinks.Nodup := by
    refine List.nodup_flatMap.2 ⟨fun p _ => (h.nodup p).map fun _ _ e => congrArg Prod.snd e, ?_⟩
    apply List.nodup_range.imp
    intro p q hne
    simp only [Function.onFun, List.disjoint_left, List.mem_map]
    rintro _ ⟨n, -, rfl⟩ ⟨m, -, e⟩
    exact hne (congrArg Prod.fst e).symm
  apply hlinks.map_on
  rintro ⟨p, n⟩ hp ⟨q, m⟩ hq rfl
  -- A node has one producer.
  rw [h.mem_tagLinks] at hp hq
  rw [Option.some.inj (hp.symm.trans hq)]

theorem tagLinks_filter (n : NodeRef) :
    s.forest.tagLinks.filter (·.2 = n) = (s.forest.get n).producer.toList.map fun p => (p, n) := by
  have hn : (s.forest.tagLinks.filter (·.2 = n)).Nodup := h.consumers_nodup.of_map.filter _
  have hmem : ∀ p m, (p, m) ∈ s.forest.tagLinks.filter (·.2 = n) ↔ (s.forest.get n).producer = some p ∧ m = n := by
    intro p m
    rw [List.mem_filter, h.mem_tagLinks, decide_eq_true_iff]
    exact and_congr_left fun (e : m = n) => by rw [e]
  cases hp : (s.forest.get n).producer with
  | none =>
    apply List.eq_nil_iff_forall_not_mem.2
    rintro ⟨p, m⟩ hm
    rw [hmem, hp] at hm
    cases hm.1
  | some p =>
    refine List.perm_singleton.1 ((List.perm_ext_iff_of_nodup hn (List.nodup_singleton _)).2 ?_)
    rintro ⟨q, m⟩
    rw [hmem, hp, List.mem_singleton, Option.some.injEq, Prod.mk.injEq, @eq_comm _ p q]

end LinksFit

/-- How the links of a session agree with the tags of its tracers and with the passes of its log. -/
structure LinkedOnce (s : Session) (log : List Step) : Prop where
  /-- A resolved node is in one entry, below the only node with the id of its tag. -/
  resolved_iff : ∀ n, (s.forest.get n).isResolved = true ↔ ∃ p, s.forest.tagLinks.filter (·.2 = n) = [(p, n)] ∧
    ∀ q, (q < s.forest.size ∧ (s.forest.get n).receipt.id? = some (s.forest.idOf q)) ↔ q = p
  unresolved : ∀ n, (s.forest.get n).isResolved = false → s.forest.tagLinks.filter (·.2 = n) = []
  producer_iff : ∀ n p, (s.forest.get n).producer = some p ↔ (p, n) ∈ s.forest.tagLinks
  /-- No link is lost or made anew. -/
  lasting : ∀ x ∈ log, ∀ n p, (x.before.forest.get n).producer = some p → (s.forest.get n).producer = some p
  disjoint : (log.map Step.linked).Pairwise List.Disjoint
  total : (log.map fun x => x.linked.length).sum = s.forest.tagLinks.length

end Session

/-- Whatever tags a session was given, and however its archive was filled, emptied and resolved, a
tag is linked by one pass at most, and then for good. -/
theorem Run.linkedOnce {s₀ s : Session} {log : List Step} (h : Run s₀ s log) (h0 : s₀.IsNew) :
    s.LinkedOnce log where
  resolved_iff n := by
    have hfit := h.linksFit h0
    constructor
    · intro hr
      obtain ⟨p, hp⟩ := Option.isSome_iff_exists.1 hr
      obtain ⟨-, hlt, hid⟩ := hfit.resolved n p hp
      refine ⟨p, by rw [hfit.tagLinks_filter, hp]; rfl, fun q => ⟨?_, ?_⟩⟩
      · rintro ⟨hq, hid'⟩
        exact (h.inStep h0).distinct q p hq hlt (Option.some.inj (hid'.symm.trans hid))
      · rintro rfl
        exact ⟨hlt, hid⟩
    · rintro ⟨p, hp, -⟩
      have hpn : (p, n) ∈ s.forest.tagLinks := List.mem_of_mem_filter (hp ▸ List.mem_singleton_self _)
      rw [hfit.mem_tagLinks] at hpn
      simp [Node.isResolved, hpn]
  unresolved n hr := by
    have hnone : (s.forest.get n).producer = none := by simpa [Node.isResolved] using hr
    rw [(h.linksFit h0).tagLinks_filter, hnone]
    rfl
  producer_iff n p := (h.linksFit h0).mem_tagLinks.symm
  lasting x hx n p hp := by
    have hadmits := (h.of_mem hx).2
    have hlater := (Step.later hadmits).trans (h.later hx)
    exact (hlater.node n (Session.lt_of_producer hp)).producer p hp
  disjoint := (List.nodup_flatMap.1 (h.mem_linked_iff h0).1).2.map _ fun _ _ h => h
  total := by
    have hfit := h.linksFit h0
    obtain ⟨hnodup, hmem⟩ := h.mem_linked_iff h0
    -- The passes have linked the consumers of all links, each once.
    have hp : (s.forest.tagLinks.map Prod.snd).Perm (log.flatMap Step.linked) := by
      apply (List.perm_ext_iff_of_nodup hfit.consumers_nodup hnodup).2
      intro n
      rw [hmem, List.mem_map]
      constructor
      · rintro ⟨⟨p, m⟩, hpm, rfl⟩
        simp [Node.isResolved, hfit.mem_tagLinks.1 hpm]
      · intro hr
        obtain ⟨p, hp⟩ := Option.isSome_iff_exists.1 hr
        exact ⟨(p, n), hfit.mem_tagLinks.2 hp, rfl⟩
    rw [← List.length_flatMap, ← hp.length_eq, List.length_map]

/-- Tags of a tracer that is completed later, of the tracer itself, of no tracer and of no form, with
four passes; the archive is emptied twice in between. -/
def taggedProgram : List (Thread × Command) :=
  let outgoing := Details.outgoingWebRequest ⟨"url", "GET", [], [], none⟩
  let incoming := Details.incomingRemoteCall ⟨"method", "service", "endpoint", none, none⟩
  let tag (id : TracerId) := IncomingTag.bytes (Tag.encodeBytes id)
  let commands : List Command := [.create (.ofNat 1) outgoing, .create (.ofNat 2) incoming,
    .create (.ofNat 3) incoming, .create (.ofNat 4) incoming, .create (.ofNat 5) incoming,
    .create (.ofNat 6) incoming, .setIncomingTag 1 (tag (.ofNat 1)), .setIncomingTag 2 (.bytes [7]),
    .setIncomingTag 3 (tag (.ofNat 4)), .setIncomingTag 4 (tag (.ofNat 9)),
    .setIncomingTag 5 (tag (.ofNat 1)), .start 1, .endTracer 1, .resolvePending, .start 0, .start 2,
    .endTracer 2, .endTracer 0, .start 3, .endTracer 3, .start 4, .endTracer 4, .resolve true, .resolvePending,
    .drain, .start 5, .endTracer 5, .resolve false, .clearArchive]
  commands.map (⟨"a"⟩, ·)

theorem linkedOnce_taggedProgram :
    let s₀ : Session := { name := "session" }
    (s₀.played taggedProgram).LinkedOnce (s₀.play taggedProgram) ∧
      (s₀.played taggedProgram).forest.tagLinks = [(0, 1), (3, 3)] ∧
      ((s₀.play taggedProgram).filter (·.command.isPass)).map Step.linked = [[], [1, 3], [], []] := by
  have hnew : Session.IsNew { name := "session" } := ⟨rfl, rfl, rfl, rfl, by rintro r ⟨⟩⟩
  have hstart : Run { name := "session" } { name := "session" } [] := .nil
  have hrun := hstart.played taggedProgram (by decide +kernel)
  exact ⟨Run.linkedOnce hrun hnew, by decide +kernel, by decide +kernel⟩

end CallPath
