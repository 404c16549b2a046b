import CallPath.Proofs.Links
import CallPath.Proofs.TagCodec
/-!
# Tags on their way

What a log tells of the tags that were handed out and given. A tracer remembers the last tag it was
given (`Run.receipt_of_lastTag`), a tracer that was made from a link remembers the link
(`Run.receipt_of_made`), and a recording agent hands out the tag of the tracer that is asked for
(`Run.data_of_handsOut`), because it knows that this tracer is running.
-/

namespace CallPath

/-- The only tag there is. -/
def IncomingTags.only? (tags : IncomingTags) : Option IncomingTag :=
  match tags.string, tags.bytes with
  | some text, none => some (.string text)
  | none, some data => some (.bytes data)
  | _, _ => none

/-- The tag that a tracer of a kind is given by its options. -/
def TraceOptions.tagFor (o : TraceOptions) (kind : Kind) : Option IncomingTag :=
  if kind.acceptsTag then o.tags.only? else none

/-- Whether a tracer is to be created from the link, with options or without. -/
def Command.usesLink (link : InProcessLink) : Command → Bool
  | trace _ (.inProcessLink link') _ => link' = link
  | create _ (.inProcessLink target) => target = link.target
  | _ => false

deriving instance DecidableEq for Command, Reply

namespace Step

/-- The tags that the command gave to tracers. -/
def tagsGiven (x : Step) : List (NodeRef × IncomingTag) :=
  match x.command, x.reply with
  | .setIncomingTag n tag, .done (.ok _) => [(n, tag)]
  | .applyIncomingTags n tags, .done (.ok _) => tags.only?.toList.map fun tag => (n, tag)
  | .trace _ op o, .created (.ok n) => (o.tagFor op.kind).toList.map fun tag => (n, tag)
  | _, _ => []

/-- The command handed out a tag of `p`. -/
def HandsOut (x : Step) (p : NodeRef) (form : TagForm) (data : List UInt8) : Prop :=
  x.command = .outgoingTag p form ∧ x.reply = .tag (.ok data)

/-- The command made a link while `p` was the innermost tracer of its thread. -/
def MakesLink (x : Step) (p : NodeRef) (link : InProcessLink) : Prop :=
  x.command = .createLink ∧ x.before.active? x.thread = some p ∧ x.reply = .link link

/-- The command created a tracer from a link. -/
def MakesTracer (x : Step) (link : InProcessLink) (n : NodeRef) : Prop :=
  x.command.usesLink link = true ∧ x.reply = .created (.ok n)

instance (x : Step) (p : NodeRef) (form : TagForm) (data : List UInt8) : Decidable (x.HandsOut p form data) :=
  inferInstanceAs (Decidable (_ ∧ _))

instance (x : Step) (p : NodeRef) (link : InProcessLink) : Decidable (x.MakesLink p link) :=
  inferInstanceAs (Decidable (_ ∧ _))

instance (x : Step) (link : InProcessLink) (n : NodeRef) : Decidable (x.MakesTracer link n) :=
  inferInstanceAs (Decidable (_ ∧ _))

end Step

/-- The tag that a tracer was given last. -/
def lastTag? (log : List Step) (n : NodeRef) : Option IncomingTag :=
  (((log.flatMap Step.tagsGiven).filter (·.1 = n)).getLast?).map Prod.snd

/-- What a tracer remembers after it was given a tag, if it was given one. -/
def TagReceipt.after (r : TagReceipt) : Option IncomingTag → TagReceipt
  | some tag => .ofDecoded tag.decode
  | none => r

/-! ## Operations that give tags -/

namespace Session

theorem receipt_inert : Node.Inert Node.receipt where
  enter _ _ _ := rfl
  nest _ _ := rfl
  fields _ _ _ _ := rfl
  failed _ _ := rfl
  attributes _ _ := rfl
  held _ _ := rfl

variable {s s' : Session} {t : Thread} {n m : NodeRef}

theorem setIncomingTag_given (tag : IncomingTag) (hn : n < s.forest.size) :
    (∃ e, s.setIncomingTag t n tag = (.error e, s.refused n e)) ∨ ∃ s', s.setIncomingTag t n tag = (.ok (), s') ∧
      (s'.forest.get n).receipt = (s.forest.get n).receipt.after (some tag) := by
  rcases s.setIncomingTag_cases t n tag with h | ⟨-, -, -, h⟩
  · exact .inl h
  · refine .inr ⟨_, h, ?_⟩
    split <;> simp [tagged, log, Forest.get_modify_eq, hn, TagReceipt.after]

theorem applyIncomingTags_given (tags : IncomingTags) (hn : n < s.forest.size) :
    (∃ e, s.applyIncomingTags t n tags = (.error e, s.refused n e)) ∨
      ∃ s', s.applyIncomingTags t n tags = (.ok (), s') ∧
        (s'.forest.get n).receipt = (s.forest.get n).receipt.after tags.only? := by
  obtain ⟨string, bytes⟩ := tags
  cases string with
  | none =>
    cases bytes with
    | none => exact .inr ⟨s, rfl, rfl⟩
    | some data => exact setIncomingTag_given (.bytes data) hn
  | some text =>
    cases bytes with
    | none => exact setIncomingTag_given (.string text) hn
    | some data => exact .inr ⟨_, rfl, rfl⟩

theorem setUp_given (kind : Kind) (o : TraceOptions) (hn : n < s.forest.size)
    (h : s.setUp t n kind o = (.ok (), s')) :
    (s'.forest.get n).receipt = (s.forest.get n).receipt.after (o.tagFor kind) := by
  have hkeep := updateAll_keeps (s := s) (t := t) (n := n) receipt_inert.toUntouched (o.updates kind)
  have hsize := (updateAll_effects (s := s) (t := t) (o.updates kind) hn).2.forest.size
  unfold setUp at h
  unfold TraceOptions.tagFor
  cases hu : s.updateAll t n (o.updates kind) with
  | mk result s₁ =>
    rw [hu] at h hkeep hsize
    cases result with
    | error e => cases h
    | ok _ =>
      cases hk : kind.acceptsTag with
      | false =>
        simp only [hk] at h
        cases h
        exact hkeep n
      | true =>
        simp only [hk, if_true] at h ⊢
        rw [← hkeep n]
        rcases applyIncomingTags_given (s := s₁) (t := t) o.tags (hsize ▸ hn) with ⟨e, h'⟩ | ⟨s₂, h', hr⟩
        · rw [h'] at h
          cases h
        · rw [h'] at h
          cases h
          exact hr

/-- Setting up a tracer gives no other tracer a tag. -/
theorem setUp_receipt_ne (kind : Kind) (o : TraceOptions) (h : m ≠ n) :
    ((s.setUp t n kind o).2.forest.get m).receipt = (s.forest.get m).receipt := by
  have hkeep := updateAll_keeps (s := s) (t := t) (n := n) receipt_inert.toUntouched (o.updates kind)
  unfold setUp
  split
  · rename_i s₁ hu
    rw [hu] at hkeep
    split
    · rw [applyIncomingTags_get_ne o.tags h]
      exact hkeep m
    · exact hkeep m
  · exact hkeep m

theorem trace_given {id : TracerId} {op : Operation} {o : TraceOptions} (h : s.trace t id op o = (.ok n, s')) :
    n = s.forest.size ∧ n < s'.forest.size ∧ ∃ d r, op.details = .ok d ∧
      r = d.linkTarget.elim .absent TagReceipt.carries ∧ (s'.forest.get n).receipt = r.after (o.tagFor op.kind) := by
  unfold trace createFor at h
  cases hd : op.details with
  | error e =>
    rw [hd] at h
    cases h
  | ok d =>
    rw [hd] at h
    have hn : s.forest.size < (s.create t id d).2.forest.size := by
      show _ < (s.forest.add _).2.size
      simp
    have hsize := (setUp_effects (s := (s.create t id d).2) (t := t) op.kind o hn).2.forest.size
    cases hset : (s.create t id d).2.setUp t s.forest.size op.kind o with
    | mk result s₁ =>
      have hset' : (s.create t id d).2.setUp t (s.create t id d).1 op.kind o = (result, s₁) := hset
      rw [hset] at hsize
      cases result with
      | error e =>
        simp only [hset'] at h
        cases h
      | ok _ =>
        simp only [hset'] at h
        cases h
        have hr := setUp_given op.kind o hn hset
        rw [get_created] at hr
        exact ⟨rfl, hsize ▸ hn, d, _, rfl, rfl, hr⟩

/-- A new tracer does not change what older ones remember. -/
theorem trace_receipt_of_lt (id : TracerId) (op : Operation) (o : TraceOptions) (hm : m < s.forest.size) :
    ((s.trace t id op o).2.forest.get m).receipt = (s.forest.get m).receipt := by
  unfold trace createFor
  cases op.details with
  | error e => rfl
  | ok d =>
    have hne : m ≠ (s.create t id d).1 := Nat.ne_of_lt hm
    have hset := setUp_receipt_ne (s := (s.create t id d).2) (t := t) op.kind o hne
    have hnew : ((s.create t id d).2.forest.get m).receipt = (s.forest.get m).receipt := by
      rw [get_create, if_neg (Nat.ne_of_lt hm)]
    dsimp only
    split
    · rename_i s₁ h
      rw [h] at hset
      exact hset.trans hnew
    · rename_i e s₁ h
      rw [h] at hset
      have hwork := receipt_inert.toUntouched
      exact ((drop_keeps hwork m).trans (endTracer_keeps hwork m)).trans (hset.trans hnew)

end Session

/-- A pass changes nothing but producers and the children of producers. -/
theorem Forest.resolvePass_same {α : Type} {q : Node → α} (hp : ∀ m p, q { m with producer := p } = q m)
    (hl : ∀ m c, q (m.link .tagLinked c) = q m) (f : Forest) (a : Archive) :
    (f.resolvePass a).2.size = f.size ∧ ∀ n, q ((f.resolvePass a).2.get n) = q (f.get n) := by
  have fold : ∀ (nodes l : List NodeRef) (x : Resolution × Forest),
      (l.foldl (resolveStep nodes) x).2.size = x.2.size ∧
        ∀ n, q ((l.foldl (resolveStep nodes) x).2.get n) = q (x.2.get n) := by
    intro nodes l
    induction l with
    | nil => exact fun _ => ⟨rfl, fun _ => rfl⟩
    | cons m l ih =>
      intro x
      obtain ⟨hsize, hget⟩ := ih (resolveStep nodes x m)
      rw [List.foldl_cons]
      rcases resolveStep_cases nodes x.1 x.2 m with h | ⟨p, -, -, -, h⟩ <;> rw [h] at hsize hget
      · exact ⟨hsize, hget⟩
      · exact ⟨hsize.trans (size_resolve ..), fun n => (hget n).trans (get_resolve_same hp hl x.2 m p n)⟩
  exact fold _ _ ({}, f)

/-- A pass gives no tracer a tag. -/
theorem Forest.receipt_resolvePass (f : Forest) (a : Archive) (n : NodeRef) :
    ((f.resolvePass a).2.get n).receipt = (f.get n).receipt :=
  (resolvePass_same (q := Node.receipt) (fun _ _ => rfl) (fun _ _ => rfl) f a).2 n

/-! ## Steps and runs -/

namespace Step

variable {x : Step}

/-- What the command told a tracer is that it was given the tag, or no tracer was given any. -/
def Told (x : Step) (n : NodeRef) : Prop :=
  (∃ tag, x.tagsGiven = [(n, tag)] ∧ n < x.after.forest.size ∧
    (x.after.forest.get n).receipt = .ofDecoded tag.decode) ∨
  ((∀ g ∈ x.tagsGiven, g.1 ≠ n) ∧
    (n < x.before.forest.size → (x.after.forest.get n).receipt = (x.before.forest.get n).receipt))

theorem Told.of_none {n : NodeRef} (hg : x.tagsGiven = [])
    (h : n < x.before.forest.size → (x.after.forest.get n).receipt = (x.before.forest.get n).receipt) : x.Told n := by
  refine .inr ⟨?_, h⟩
  simp [hg]

/-- One tracer `m` was given a tag, or not, and the others are as before. -/
theorem Told.of_given {n : NodeRef} (m : NodeRef) (tag? : Option IncomingTag) (r : TagReceipt)
    (hg : x.tagsGiven = tag?.toList.map fun tag => (m, tag)) (hm : m < x.after.forest.size)
    (hr : (x.after.forest.get m).receipt = r.after tag?)
    (hself : m < x.before.forest.size → r = (x.before.forest.get m).receipt)
    (hother : n ≠ m → n < x.before.forest.size →
      (x.after.forest.get n).receipt = (x.before.forest.get n).receipt) : x.Told n := by
  by_cases e : n = m
  · subst e
    cases tag? with
    | none => exact .of_none hg fun hn => hr.trans (hself hn)
    | some tag => exact .inl ⟨tag, hg, hm, hr⟩
  · refine .inr ⟨?_, hother e⟩
    rw [hg]
    simp [Ne.symm e]

/-- A command that only gives a tag to a tracer `m`, and may be refused. -/
theorem Told.of_tagging {s : Session} {t : Thread} {c : Command} {n m : NodeRef} {tag? : Option IncomingTag}
    {result : Except UsageError Unit × Session} (hperform : s.perform t c = result.map .done id)
    (hrefused : ∀ e, reply ⟨s, t, c⟩ = .done (.error e) → tagsGiven ⟨s, t, c⟩ = [])
    (hdone : reply ⟨s, t, c⟩ = .done (.ok ()) → tagsGiven ⟨s, t, c⟩ = tag?.toList.map fun tag => (m, tag))
    (hm : m < (after ⟨s, t, c⟩).forest.size)
    (hr : (∃ e, result = (.error e, s.refused m e)) ∨ ∃ s', result = (.ok (), s') ∧
      (s'.forest.get m).receipt = (s.forest.get m).receipt.after tag?)
    (hother : n ≠ m → result.2.forest.get n = s.forest.get n) : Told ⟨s, t, c⟩ n := by
  have hafter : after ⟨s, t, c⟩ = result.2 := congrArg Prod.snd hperform
  have hreply : reply ⟨s, t, c⟩ = .done result.1 := congrArg Prod.fst hperform
  rcases hr with ⟨e, rfl⟩ | ⟨s', rfl, hr⟩
  · apply Told.of_none (hrefused e hreply)
    intro _
    rw [hafter]
    rfl
  · refine .of_given m tag? _ (hdone hreply) hm (by rw [hafter]; exact hr) (fun _ => rfl) ?_
    intro hne _
    rw [hafter]
    exact congrArg Node.receipt (hother hne)

/-- A command gives a tracer one tag, which it remembers then, or it gives it none. -/
theorem told (h : x.before.Admits x.command) (n : NodeRef) : x.Told n := by
  obtain ⟨s, t, c⟩ := x
  have target : ∀ {m}, c.target? = some m → m < (after ⟨s, t, c⟩).forest.size := fun hm =>
    Nat.lt_of_lt_of_le (h.1 _ hm).1 (later h).size
  by_cases hw : c.isWork = true
  · refine .of_none ?_ fun _ => Session.perform_keeps Session.receipt_inert s t hw n
    cases c <;> first | rfl | cases hw
  · cases c with
    | create id d =>
      apply Told.of_none rfl
      intro hn
      show ((s.create t id d).2.forest.get n).receipt = _
      rw [Session.get_create, if_neg (Nat.ne_of_lt hn)]
    | trace id op o =>
      have hold := fun hn : n < s.forest.size => Session.trace_receipt_of_lt (t := t) id op o hn
      cases htrace : s.trace t id op o with
      | mk result s' =>
        have hafter : after ⟨s, t, .trace id op o⟩ = s' := congrArg Prod.snd htrace
        have hreply : reply ⟨s, t, .trace id op o⟩ = .created result := congrArg (Reply.created ∘ Prod.fst) htrace
        rw [htrace] at hold
        cases result with
        | error e => exact .of_none (by simp only [tagsGiven, hreply]) (by rwa [hafter])
        | ok m =>
          obtain ⟨rfl, hlt, d, r, -, -, hr⟩ := Session.trace_given htrace
          refine .of_given _ (o.tagFor op.kind) r (by simp only [tagsGiven, hreply]) (by rwa [hafter]) (by rwa [hafter])
            (fun hm => absurd hm (Nat.lt_irrefl _)) fun _ => by rwa [hafter]
    | setIncomingTag m tag =>
      refine .of_tagging rfl ?_ ?_ (target rfl)
        (Session.setIncomingTag_given tag (h.1 m rfl).1) (Session.setIncomingTag_get_ne tag)
      · intro e he
        simp only [tagsGiven, he]
      · intro hr
        simp only [tagsGiven, hr]
        rfl
    | applyIncomingTags m tags =>
      refine .of_tagging rfl ?_ ?_ (target rfl)
        (Session.applyIncomingTags_given tags (h.1 m rfl).1) (Session.applyIncomingTags_get_ne tags)
      · intro e he
        simp only [tagsGiven, he]
      · intro hr
        simp only [tagsGiven, hr]
    | resolvePending => exact .of_none rfl fun _ => Forest.receipt_resolvePass _ _ n
    | resolve w =>
      apply Told.of_none rfl
      intro _
      rw [(pass_eq (x := ⟨s, t, .resolve w⟩) rfl).1]
      exact Forest.receipt_resolvePass _ _ n
    | _ => exact absurd rfl hw

end Step

theorem lastTag?_of_given {log : List Step} {x : Step} {n : NodeRef} {tag : IncomingTag}
    (h : x.tagsGiven = [(n, tag)]) : lastTag? (log ++ [x]) n = some tag := by
  simp [lastTag?, h]

theorem lastTag?_of_not_given {log : List Step} {x : Step} {n : NodeRef} (h : ∀ g ∈ x.tagsGiven, g.1 ≠ n) :
    lastTag? (log ++ [x]) n = lastTag? log n := by
  have hnone : x.tagsGiven.filter (fun g => decide (g.1 = n)) = [] := by simpa using h
  simp [lastTag?, hnone]

section Runs

variable {s₀ s : Session} {log : List Step} (h : Run s₀ s log)

include h

/-- A tracer remembers the last tag it was given. -/
theorem Run.receipt_of_lastTag {n : NodeRef} {tag : IncomingTag} (hl : lastTag? log n = some tag) :
    n < s.forest.size ∧ (s.forest.get n).receipt = .ofDecoded tag.decode := by
  induction h with
  | nil => cases hl
  | @step s log t c _ ha ih =>
    rcases Step.told (x := ⟨s, t, c⟩) ha n with ⟨tag', hg, hn, hr⟩ | ⟨hg, hr⟩
    · rw [lastTag?_of_given hg] at hl
      cases hl
      exact ⟨hn, hr⟩
    · rw [lastTag?_of_not_given hg] at hl
      obtain ⟨hn, hr'⟩ := ih hl
      exact ⟨Nat.lt_of_lt_of_le hn (Step.later (x := ⟨s, t, c⟩) ha).size, (hr hn).trans hr'⟩

/-- A tracer that was made from a link remembers what the link names. -/
theorem Run.receipt_of_made {y : Step} (hy : y ∈ log) {link : InProcessLink} {n : NodeRef}
    (hm : y.MakesTracer link n) :
    n < s.forest.size ∧ (s.forest.get n).receipt = link.target.elim .absent TagReceipt.carries := by
  have hlater := h.later hy
  obtain ⟨b, t, c⟩ := y
  -- With options or without, the tracer is only created: its kind takes none of them.
  obtain ⟨newId, hafter, hreply⟩ : ∃ newId,
      (b.perform t c).2 = (b.create t newId (.inProcessLink link.target)).2 ∧
        (b.perform t c).1 = .created (.ok b.forest.size) := by
    have huses := hm.1
    unfold Command.usesLink at huses
    split at huses
    · rename_i newId link' o hc
      obtain rfl : link' = link := by simpa using huses
      obtain rfl : c = _ := hc
      exact ⟨newId, rfl, rfl⟩
    · rename_i newId target hc
      obtain rfl : target = link.target := by simpa using huses
      obtain rfl : c = _ := hc
      exact ⟨newId, rfl, rfl⟩
    · cases huses
  obtain rfl : b.forest.size = n := by
    have he : Reply.created (.ok b.forest.size) = .created (.ok n) := hreply.symm.trans hm.2
    injection he with he
    injection he
  have hnode : (b.perform t c).2.forest.get b.forest.size =
      { id := newId, owner := t, details := .inProcessLink link.target, createdAt := b.clock
        receipt := link.target.elim .absent TagReceipt.carries, held := true } := by
    rw [hafter, Session.get_created]
    rfl
  have hlt : b.forest.size < (b.perform t c).2.forest.size := by
    rw [hafter]
    show _ < (b.forest.add _).2.size
    simp
  have hn := hlater.node b.forest.size hlt
  refine ⟨Nat.lt_of_lt_of_le hlt hlater.size, ?_⟩
  have hkind : ((b.perform t c).2.forest.get b.forest.size).kind.acceptsTag = false := by
    rw [hnode]
    rfl
  rw [hn.receipt (.inr hkind)]
  show ((b.perform t c).2.forest.get b.forest.size).receipt = _
  rw [hnode]

end Runs

/-! ## Where tags and links come from -/

theorem Run.isFound {s₀ s : Session} {log : List Step} (h : Run s₀ s log) (hf : s₀.agent.isFound = true) :
    s.agent.isFound = true :=
  h.inv (I := fun s => s.agent.isFound = true) (fun _ _ _ _ he hs => he.tells.isFound_eq.trans hs) hf

/-- A recorder that knows that the tracer is running hands out its tag. -/
theorem Session.InStep.outgoingTag_eq {s : Session} (h : s.InStep) (hf : s.agent.isFound = true) {n : NodeRef}
    (hst : (s.forest.get n).state = .started) (form : TagForm) :
    (s.agent.getOutgoingTag (s.forest.idOf n) form).1 = Tag.encode (s.forest.idOf n) form := by
  obtain ⟨⟨backend, callback⟩, hagent⟩ : ∃ a, s.agent = a := ⟨_, rfl⟩
  rw [hagent] at hf ⊢
  cases backend with
  | null => cases hf
  | recorder r =>
    have hstate := (h.follows r (by rw [hagent]; rfl)).verdict.2 n (Forest.lt_size_of_state (by simp [hst]))
    rw [hst] at hstate
    show (r.getOutgoingTag (s.forest.idOf n) form).1 = _
    rw [r.getOutgoingTag_fst, hstate, if_neg (by simp [AgentCall.Breaks])]

section Runs

variable {s₀ s : Session} {log : List Step} (h : Run s₀ s log) (h0 : s₀.IsNew)

include h

theorem Run.id_later {x : Step} (hx : x ∈ log) {p : NodeRef} (hp : p < x.before.forest.size) :
    p < s.forest.size ∧ s.forest.idOf p = x.before.forest.idOf p := by
  have hlater := (Step.later (h.of_mem hx).2).trans (h.later hx)
  exact ⟨Nat.lt_of_lt_of_le hp hlater.size, (hlater.node p hp).id⟩

include h0

/-- What a tracer hands out is its tag. -/
theorem Run.data_of_handsOut (hf : s₀.agent.isFound = true) {x : Step} (hx : x ∈ log) {p : NodeRef} {form : TagForm}
    {data : List UInt8} (ho : x.HandsOut p form data) :
    p < s.forest.size ∧ data = Tag.encode (s.forest.idOf p) form := by
  obtain ⟨⟨l, hrun⟩, -⟩ := h.of_mem hx
  have hstep := hrun.inStep h0
  have hfound := hrun.isFound hf
  have hid := h.id_later hx (p := p)
  obtain ⟨b, t, c⟩ := x
  obtain ⟨rfl, hreply⟩ := ho
  rcases b.outgoingTag_cases t p form with ⟨e, he⟩ | ⟨-, -, hst, he⟩
  · simp only [Step.reply, Session.perform, he, Prod.map] at hreply
    cases hreply
  · obtain ⟨hp, e⟩ := hid (Forest.lt_size_of_state (by simp [hst]))
    refine ⟨hp, ?_⟩
    simp only [Step.reply, Session.perform, he, Prod.map, Reply.tag.injEq, Except.ok.injEq] at hreply
    rw [e, ← hreply]
    exact hstep.outgoingTag_eq hfound hst form

/-- A link names the tracer that was the innermost one. -/
theorem Run.link_of_makesLink {x : Step} (hx : x ∈ log) {p : NodeRef} {link : InProcessLink}
    (hm : x.MakesLink p link) : p < s.forest.size ∧ link = .ofTarget (some (s.forest.idOf p)) := by
  obtain ⟨⟨l, hrun⟩, -⟩ := h.of_mem hx
  have hsound := hrun.sound h0
  have hid := h.id_later hx (p := p)
  obtain ⟨b, t, c⟩ := x
  obtain ⟨rfl, ha, hreply⟩ := hm
  obtain ⟨hp, e⟩ := hid (Forest.lt_size_of_state (by simp [hsound.started_of_active ha]))
  refine ⟨hp, ?_⟩
  have hlink : b.createLink t = link := by
    simp only [Step.reply, Session.perform, Reply.link.injEq] at hreply
    exact hreply
  rw [← hlink, Session.createLink, ha, e]
  rfl

/-- Where only issued ids were given to new tracers, all tracers have one. -/
theorem Run.isIssued (hid : ∀ x ∈ log, ∀ id ∈ x.command.newId?, id.IsIssued) :
    ∀ id ∈ s.forest.ids, id.IsIssued := by
  induction h with
  | nil =>
    rw [h0.forest]
    rintro id ⟨⟩
  | @step s log t c _ ha ih =>
    intro id hm
    rcases Session.mem_ids_perform ha hm with hm | hm
    · exact ih (fun x hx => hid x (by simp [hx])) id hm
    · exact hid ⟨s, t, c⟩ (by simp) id hm

end Runs

end CallPath
