import CallPath.Proofs.Holding
import CallPath.Proofs.Receipts
/-!
# Correlation from end to end

A tracer `p` hands out its tag, which reaches another tracer `c` in the form it was handed out in,
or `c` is made from a link to `p`: then `c` remembers the id of `p` (`Matched.receipt`). Once the
trees of both are in the archive, whichever came first, the next pass links `c` to `p`, and no pass
links it to any other (`Run.correlates`).
-/

namespace CallPath

/-- What is below a root is kept. -/
theorem Forest.mem_kept_of_below {f : Forest} {roots : List NodeRef} {r n : NodeRef} (hr : r ∈ roots)
    (hb : f.Below r n) (hn : n < f.size) : n ∈ f.kept roots :=
  mem_kept_of_holds hr (Relation.ReflTransGen.mono (fun _ _ => Nests.holds) _ _ hb) hn

theorem Node.count_tagLinkedRefs (m : Node) (c : NodeRef) :
    m.tagLinkedRefs.count c = m.children.count (.tagLinked, c) := by
  unfold tagLinkedRefs
  induction m.children with
  | nil => rfl
  | cons a l ih =>
    obtain ⟨kind, n⟩ := a
    cases kind with
    | child => simpa using ih
    | tagLinked => simp [List.count_cons, ih]

/-! ## Tags and links that reach their consumer -/

/-- The last tag that `c` was given is the one that `p` handed out, or `c` was made from a link to
`p`. -/
inductive Matched (log : List Step) (p c : NodeRef) : Prop
  | tag {x : Step} {form : TagForm} {data : List UInt8} {tag : IncomingTag} (hx : x ∈ log)
      (ho : x.HandsOut p form data) (hl : lastTag? log c = some tag) (hc : tag.Copies form data)
  | link {x y : Step} {link : InProcessLink} (hx : x ∈ log) (hl : x.MakesLink p link) (hy : y ∈ log)
      (hm : y.MakesTracer link c)

/-- The tree of the tracer was completed and is still in the archive. -/
def Stored (s : Session) (log : List Step) (n : NodeRef) : Prop :=
  ∃ r ∈ log.flatMap Step.completed, r ∉ log.flatMap Step.removed ∧ s.forest.Below r n

/-- What became of the tags and links that reached their consumers. -/
structure Session.Correlates (s : Session) (log : List Step) : Prop where
  /-- A pass that finds both in the archive leaves them linked for good. -/
  linked : ∀ p c, Matched log p c → ∀ l x l', log = l ++ x :: l' → x.command.isPass = true →
    Stored x.before l p → Stored x.before l c →
      (s.forest.get c).isResolved = true ∧ (s.forest.get c).producer = some p ∧
        (s.forest.get p).children.count (.tagLinked, c) = 1
  /-- The producer is seen as long as it is in the archive, whatever else is held. -/
  seen : ∀ p c, Matched log p c → (s.forest.get c).isResolved = true → Stored s log p →
    ∀ roots, s.archive.roots ⊆ roots → s.forest.linkedParent? roots c = some p
  only : ∀ p c, Matched log p c → ∀ q, (.tagLinked, c) ∈ (s.forest.get q).children → q = p

section

variable {s₀ s : Session} {log : List Step} {p c : NodeRef}

/-- The consumer remembers the id of the producer. -/
theorem Matched.receipt (hm : Matched log p c) (h : Run s₀ s log) (h0 : s₀.IsNew) (hf : s₀.agent.isFound = true)
    (hid : ∀ x ∈ log, ∀ id ∈ x.command.newId?, id.IsIssued) :
    p < s.forest.size ∧ (s.forest.get c).receipt.id? = some (s.forest.idOf p) := by
  have hissued : ∀ {n}, n < s.forest.size → (s.forest.idOf n).IsIssued := fun hn =>
    h.isIssued h0 hid _ (Forest.idOf_mem_ids hn)
  cases hm with
  | tag hx ho hl hc =>
    obtain ⟨hp, rfl⟩ := h.data_of_handsOut h0 hf hx ho
    refine ⟨hp, ?_⟩
    rw [(h.receipt_of_lastTag hl).2, hc.decode_eq (hissued hp)]
    rfl
  | link hx hl hy hm =>
    obtain ⟨hp, rfl⟩ := h.link_of_makesLink h0 hx hl
    refine ⟨hp, ?_⟩
    rw [(h.receipt_of_made hy hm).2, InProcessLink.target_ofTarget (hissued hp)]
    rfl

/-- What is stored is in the archive. -/
theorem Stored.mem_nodes {n : NodeRef} (hn : Stored s log n) (h : Run s₀ s log) (h0 : s₀.IsNew)
    (hr : s₀.settings.retainCompletedPaths = true) :
    n ∈ s.archive.nodes s.forest ∧ ∃ r ∈ s.archive.roots, s.forest.Below r n := by
  obtain ⟨r, hc, hnot, hb⟩ := hn
  have htally := h.tally_removed h0 hr
  rw [← htally.archive] at hc
  have hroot : r ∈ s.archive.roots := (List.mem_append.1 hc).resolve_left hnot
  exact ⟨List.mem_flatMap.2 ⟨r, hroot, htally.sound.nesting.mem_preorder_iff.2 hb⟩, r, hroot, hb⟩

/-- A pass links a consumer whose producer is in the archive, if none did before. -/
theorem Step.producer_of_pass {x : Step} {l : List Step} (h : Run s₀ x.before l) (h0 : s₀.IsNew)
    (hx : x.command.isPass = true) (hp : p ∈ x.before.archive.nodes x.before.forest)
    (hc : c ∈ x.before.archive.nodes x.before.forest)
    (hid : (x.before.forest.get c).receipt.id? = some (x.before.forest.idOf p)) :
    (x.after.forest.get c).producer = some p := by
  have hs := h.sound h0
  have hn := hs.archived_nodup (h.filed h0)
  have hb : ∀ n ∈ x.before.archive.nodes x.before.forest, n < x.before.forest.size := fun n => hs.lt_of_archived
  have hd : ((x.before.archive.nodes x.before.forest).map x.before.forest.idOf).Nodup :=
    hn.map_on fun m hm n hn' e => (h.inStep h0).distinct m n (hb m hm) (hb n hn') e
  have hfound := (Forest.producerAmong_eq_some_iff hd).2 ⟨hp, hid⟩
  rw [(Step.pass_eq hx).1, (Forest.links_resolvePass hn hb).get]
  cases hres : (x.before.forest.get c).producer with
  | some q =>
    -- An earlier pass has found the same node.
    obtain ⟨-, hq, hid'⟩ := (h.linksFit h0).resolved c q hres
    obtain rfl := (h.inStep h0).distinct q p hq (hb p hp) (Option.some.inj (hid'.symm.trans hid))
    unfold Forest.linkedNode
    dsimp only
    split
    · exact hfound
    · exact hres
  | none =>
    have hpresent : (x.before.forest.get c).receipt.isPresent = true := by
      cases hreceipt : (x.before.forest.get c).receipt <;> simp [hreceipt, TagReceipt.id?] at hid
      rfl
    have hpending : x.before.forest.isPending c = true := by
      simp [Forest.isPending, hpresent, Node.isResolved, hres]
    unfold Forest.linkedNode
    dsimp only
    rw [if_pos (Forest.mem_linkable.2 ⟨hc, hpending, p, hfound⟩), hfound]

/-- Whoever gives tags and links away, and in whichever order trees are completed: the consumer of a
tag is linked to its producer, exactly once, and to no other tracer. -/
theorem Run.correlates (h : Run s₀ s log) (h0 : s₀.IsNew) (hr : s₀.settings.retainCompletedPaths = true)
    (hf : s₀.agent.isFound = true) (hid : ∀ x ∈ log, ∀ id ∈ x.command.newId?, id.IsIssued) :
    s.Correlates log where
  linked p c hm l x l' hlog hx hp hc := by
    obtain ⟨hl, ha⟩ := h.split l x l' hlog
    have hmem : x ∈ log := by simp [hlog]
    obtain ⟨hp, -⟩ := hp.mem_nodes hl h0 hr
    obtain ⟨hc, -⟩ := hc.mem_nodes hl h0 hr
    have hs := hl.sound h0
    -- The consumer had ended, so it remembered the same as at the end of the run.
    have hlater := (Step.later ha).trans (h.later hmem)
    have hreceipt : (x.before.forest.get c).receipt.id? = some (x.before.forest.idOf p) := by
      rw [← (hlater.node c (hs.lt_of_archived hc)).receipt (.inl (by simp [hs.ended_of_archived hc])),
        (hm.receipt h h0 hf hid).2]
      exact congrArg some (hlater.node p (hs.lt_of_archived hp)).id
    have hafter := Step.producer_of_pass hl h0 hx hp hc hreceipt
    have hproducer := ((h.later hmem).node c (Session.lt_of_producer hafter)).producer p hafter
    have hfit := h.linksFit h0
    refine ⟨by simp [Node.isResolved, hproducer], hproducer, ?_⟩
    rw [← Node.count_tagLinkedRefs]
    exact List.count_eq_one_of_mem (hfit.nodup p) ((hfit.entry_iff p c).2 hproducer)
  seen p c hm hres hp roots hroots := by
    obtain ⟨q, hq⟩ := Option.isSome_iff_exists.1 hres
    obtain ⟨hlt, hid'⟩ := hm.receipt h h0 hf hid
    obtain ⟨-, hlt', hid''⟩ := (h.linksFit h0).resolved c q hq
    obtain rfl := (h.inStep h0).distinct q p hlt' hlt (Option.some.inj (hid''.symm.trans hid'))
    obtain ⟨-, r, hr, hb⟩ := hp.mem_nodes h h0 hr
    have hkept := Forest.mem_kept_of_below (hroots hr) hb hlt
    simp [Forest.linkedParent?, hq, hkept]
  only p c hm q hq := by
    have hentry : c ∈ (s.forest.get q).tagLinkedRefs := by
      rw [← List.count_pos_iff, Node.count_tagLinkedRefs, List.count_pos_iff]
      exact hq
    have hfit := h.linksFit h0
    obtain ⟨hlt, hid'⟩ := hm.receipt h h0 hf hid
    obtain ⟨-, hlt', hid''⟩ := hfit.resolved c q ((hfit.entry_iff q c).1 hentry)
    exact (h.inStep h0).distinct q p hlt' hlt (Option.some.inj (hid''.symm.trans hid'))

end

/-- A tracer hands out its tag and makes a link on one thread. On another, the tag and the link reach
two tracers which are completed first; a pass comes too early, and another one at the end. -/
def carriedProgram : List (Thread × Command) :=
  let outgoing := Details.outgoingWebRequest ⟨"url", "GET", [], [], none⟩
  let incoming := Details.incomingRemoteCall ⟨"method", "service", "endpoint", none, none⟩
  let carried := " " ++ Text.ofBytes (Tag.encode (.ofNat 1) .string) ++ "\n"
  let link := InProcessLink.ofTarget (some (.ofNat 1))
  let producing : List Command := [.create (.ofNat 1) outgoing, .start 0, .outgoingTag 0 .string, .createLink]
  let consuming : List Command := [.create (.ofNat 2) incoming, .setIncomingTag 1 (.bytes [7]),
    .setIncomingTag 1 (.string carried), .start 1, .endTracer 1, .trace (.ofNat 3) (.inProcessLink link) {},
    .start 2, .endTracer 2, .resolvePending]
  producing.map (⟨"a"⟩, ·) ++ consuming.map (⟨"b"⟩, ·) ++ [(⟨"a"⟩, .endTracer 0), (⟨"b"⟩, .resolve false)]

theorem correlates_carriedProgram :
    let s₀ : Session := { name := "session", agent := .recording {} }
    (s₀.played carriedProgram).Correlates (s₀.play carriedProgram) ∧
      Matched (s₀.play carriedProgram) 0 1 ∧ Matched (s₀.play carriedProgram) 0 2 ∧
      ((s₀.play carriedProgram).filter (·.command.isPass)).map Step.linked = [[], [1, 2]] := by
  intro s₀
  have hnew : s₀.IsNew := by
    refine ⟨rfl, rfl, rfl, rfl, ?_⟩
    rintro r ⟨⟩
    exact ⟨rfl, rfl, rfl⟩
  have hstart : Run s₀ s₀ [] := .nil
  have hrun := hstart.played carriedProgram (by decide +kernel)
  have htag : ∃ x ∈ s₀.play carriedProgram, x.HandsOut 0 .string (Tag.encode ⟨1, by decide⟩ .string) := by
    decide +kernel
  have hlink : ∃ x ∈ s₀.play carriedProgram, x.MakesLink 0 (.ofTarget (some ⟨1, by decide⟩)) := by decide +kernel
  have hmade : ∃ y ∈ s₀.play carriedProgram, y.MakesTracer (.ofTarget (some ⟨1, by decide⟩)) 2 := by decide +kernel
  obtain ⟨x, hx, ho⟩ := htag
  obtain ⟨x', hx', hl⟩ := hlink
  obtain ⟨y, hy, hm⟩ := hmade
  have hlast : lastTag? (s₀.play carriedProgram) 1 =
      some (.string (" " ++ Text.ofBytes (Tag.encode ⟨1, by decide⟩ .string) ++ "\n")) := by decide +kernel
  have hcopy := IncomingTag.Copies.string " " "\n" (Tag.encode ⟨1, by decide⟩ .string) (by decide) (by decide)
  exact ⟨Run.correlates hrun hnew rfl rfl (by decide +kernel), .tag hx ho hlast hcopy, .link hx' hl hy hm,
    by decide +kernel⟩

end CallPath
