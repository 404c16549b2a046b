import CallPath.Proofs.Receipts
/-!
# What the calls tell of one tracer

The agent of a session hears of every tracer with the details that it starts from, of every field that
is set afterwards, of every tag and of every error. So the calls about a tracer account for its node, from
its `Birth` on (`Birth.Account`): the details are what the updates make of the first ones, and nothing was
forwarded that was not done, nor done without being forwarded (`Run.accounted`).
-/

namespace CallPath

namespace AgentCall

/-- The new tracer and the details that it starts from. -/
def created? : AgentCall → Option (TracerId × Details)
  | create id details => some (id, details)
  | _ => none

/-- The update that was forwarded. -/
def update? : AgentCall → Option Update
  | update _ u => some u
  | _ => none

/-- The error that was attached. -/
def error? : AgentCall → Option ErrorInfo
  | error _ className message => some ⟨className, message⟩
  | _ => none

/-- The tag that was given. -/
def tag? : AgentCall → Option IncomingTag
  | setIncomingTag _ tag => some tag
  | _ => none

/-- The state of a tracer, by the calls about it. -/
def stateAfter (calls : List AgentCall) (id : TracerId) : TracerState :=
  if .ended id ∈ calls then .ended else if .start id ∈ calls then .started else .created

end AgentCall

theorem Heard.stateAfter {l : Life} {calls : List AgentCall} (h : Heard l calls) :
    AgentCall.stateAfter calls l.id = l.state := by
  unfold AgentCall.stateAfter
  induction h with
  | created id d => simp
  | @setUp l calls c _ hst hc ih =>
    rw [← ih]
    cases c <;> simp [AgentCall.IsSetUp] at hc <;> simp
  | @worked l calls c _ hst hc _ ih =>
    rw [← ih]
    cases c <;> simp [AgentCall.IsWork] at hc <;> simp
  | @started l calls _ hst ih =>
    have hend : .ended l.id ∉ calls := by
      intro hmem
      simp [hmem, hst] at ih
    simp [hend]
  | @failed l calls className message _ hst _ ih =>
    rw [← ih]
    simp
  | @ended l calls _ hst ih => simp

/-- A recording agent could tell the state of every tracer. -/
theorem Session.InStep.stateAfter {s : Session} (h : s.InStep) (hf : s.agent.isFound = true) {n : NodeRef}
    (hn : n < s.forest.size) : AgentCall.stateAfter s.agent.calls (s.forest.idOf n) = (s.forest.get n).state := by
  have hheard : AgentCall.stateAfter (s.agent.calls.filter (·.id = s.forest.idOf n)) (s.forest.idOf n) =
      (s.forest.get n).state := (h.heard hf hn).stateAfter
  simpa [AgentCall.stateAfter, AgentCall.id] using hheard

/-- A new tracer, with the thread that it belongs to and the details that it starts from. -/
structure Birth where
  id : TracerId
  owner : Thread
  details : Details

/-- What a new tracer knows of a tag: the target, if it continues another tracer. -/
def Birth.receipt (b : Birth) : TagReceipt :=
  b.details.linkTarget.elim .absent TagReceipt.carries

/-- What the calls about a tracer tell of its node, from its birth on. -/
structure Birth.Account (b : Birth) (calls : List AgentCall) (m : Node) : Prop where
  owner : m.owner = b.owner
  /-- The updates, in the order of the calls, can all be applied, and lead to the details. -/
  details : (calls.filterMap AgentCall.update?).foldlM (fun d u => u.apply d) b.details = .ok m.details
  error : calls.filterMap AgentCall.error? = m.error.toList
  receipt : m.receipt = b.receipt.after (calls.filterMap AgentCall.tag?).getLast?

/-- What an account is about. -/
def Node.account (m : Node) : Thread × Details × Option ErrorInfo × TagReceipt :=
  (m.owner, m.details, m.error, m.receipt)

namespace Birth.Account

variable {b : Birth} {calls : List AgentCall} {m m' : Node}

theorem of_account (h : b.Account calls m) (e : m'.account = m.account) : b.Account calls m' := by
  simp only [Node.account, Prod.mk.injEq] at e
  obtain ⟨ho, hd, he, hr⟩ := e
  exact ⟨ho ▸ h.owner, hd ▸ h.details, he ▸ h.error, hr ▸ h.receipt⟩

/-- A call about starts, ends or tags of others. -/
theorem silent (h : b.Account calls m) {c : AgentCall} (hu : c.update? = none) (he : c.error? = none)
    (ht : c.tag? = none) : b.Account (calls ++ [c]) m := by
  refine ⟨h.owner, ?_, ?_, ?_⟩
  · simpa [hu] using h.details
  · simpa [he] using h.error
  · simpa [ht] using h.receipt

theorem updated (h : b.Account calls m) (id : TracerId) {u : Update} {details : Details}
    (hd : u.apply m.details = .ok details) : b.Account (calls ++ [.update id u]) { m with details } := by
  refine ⟨h.owner, ?_, ?_, ?_⟩
  · rw [List.filterMap_append, List.foldlM_append, h.details]
    exact (bind_pure (u.apply m.details)).trans hd
  · simpa [List.filterMap_cons, AgentCall.error?] using h.error
  · simpa [List.filterMap_cons, AgentCall.tag?] using h.receipt

theorem failed (h : b.Account calls m) (id : TracerId) (className message : String) (he : m.error = none) :
    b.Account (calls ++ [.error id className message]) { m with error := some ⟨className, message⟩ } := by
  have hnone : calls.filterMap AgentCall.error? = [] := by rw [h.error, he]; rfl
  refine ⟨h.owner, ?_, ?_, ?_⟩
  · simpa [List.filterMap_cons, AgentCall.update?] using h.details
  · rw [List.filterMap_append, hnone]
    rfl
  · simpa [List.filterMap_cons, AgentCall.tag?] using h.receipt

theorem tagged (h : b.Account calls m) (id : TracerId) (tag : IncomingTag) :
    b.Account (calls ++ [.setIncomingTag id tag]) { m with receipt := .ofDecoded tag.decode } := by
  refine ⟨h.owner, ?_, ?_, ?_⟩
  · simpa [List.filterMap_cons, AgentCall.update?] using h.details
  · simpa [List.filterMap_cons, AgentCall.error?] using h.error
  · simp [AgentCall.tag?, TagReceipt.after]

end Birth.Account

/-! ## Every node is accounted for -/

theorem Agent.calls_hear {a : Agent} (h : a.isFound = true) (c : AgentCall) : (a.hear c).calls = a.calls ++ [c] := by
  obtain ⟨r, hr⟩ := recorder?_of_isFound h
  unfold calls
  rw [recorder?_hear, hr]
  exact r.calls_hear c

theorem Agent.calls_of_record {a a' : Agent} (h : a'.record = a.record) : a'.calls = a.calls := by
  have hcalls : ∀ a : Agent, a.calls = a.record.elim [] Prod.fst := by
    intro a
    unfold calls record
    cases a.recorder? <;> rfl
  rw [hcalls, hcalls, h]

namespace Agent

/-- The agent after some calls. -/
def hearAll (a : Agent) (calls : List AgentCall) : Agent :=
  calls.foldl hear a

theorem hearAll_append (a : Agent) (calls calls' : List AgentCall) :
    a.hearAll (calls ++ calls') = (a.hearAll calls).hearAll calls' :=
  List.foldl_append

theorem calls_hearAll (a : Agent) (calls : List AgentCall) :
    (a.hearAll calls).calls = a.calls ++ if a.isFound then calls else [] := by
  induction calls generalizing a with
  | nil => simp [hearAll]
  | cons c calls ih =>
    show ((a.hear c).hearAll calls).calls = _
    rw [ih, isFound_hear]
    cases hf : a.isFound with
    | false =>
      rw [calls_eq_nil ((a.isFound_hear c).trans hf), calls_eq_nil hf]
      rfl
    | true =>
      rw [calls_hear hf]
      simp

theorem recorder?_hearAll (a : Agent) (calls : List AgentCall) :
    (a.hearAll calls).recorder? = a.recorder?.map (·.hearAll calls) := by
  induction calls generalizing a with
  | nil => cases h : a.recorder? <;> simp [hearAll, h, Recorder.hearAll]
  | cons c calls ih =>
    refine (ih (a.hear c)).trans ?_
    rw [recorder?_hear, Option.map_map]
    rfl

end Agent

theorem Session.IsNew.calls_eq_nil {s : Session} (h : s.IsNew) : s.agent.calls = [] := by
  unfold Agent.calls
  cases hr : s.agent.recorder? with
  | none => rfl
  | some r => exact (h.agent r hr).1

/-- No change takes back what the agent has heard. -/
theorem Tells.calls_prefix {s s' : Session} {ids : List TracerId} (ht : Tells s ids s') :
    s.agent.calls <+: s'.agent.calls := by
  have heard : ∀ c, s.agent.calls <+: (s.agent.hear c).calls := fun c => ⟨_, (s.agent.calls_hearAll [c]).symm⟩
  cases ht with
  | nothing ha _ _ => exact ⟨[], by rw [List.append_nil, Agent.calls_of_record ha]⟩
  | call n c _ ha _ _ _ _ _ =>
    rw [ha]
    exact heard c
  | created t id d _ => exact heard (.create id d)

/-- The creations were told as they were, and the calls about each tracer account for its node. -/
structure Session.Accounted (s : Session) (births : List Birth) : Prop where
  ids : births.map Birth.id = s.forest.ids
  creates : s.agent.calls.filterMap AgentCall.created? = births.map fun b => (b.id, b.details)
  node : ∀ n (b : Birth), births[n]? = some b → b.Account (s.agent.calls.filter (·.id = b.id)) (s.forest.get n)

namespace Session

variable {s s' : Session} {births : List Birth}

theorem Accounted.birth (h : s.Accounted births) {n : NodeRef} {b : Birth} (hb : births[n]? = some b) :
    n < s.forest.size ∧ s.forest.idOf n = b.id := by
  have hid : s.forest.ids[n]? = some b.id := by rw [← h.ids, List.getElem?_map, hb]; rfl
  have hn : n < s.forest.size := by
    rw [← Forest.length_ids]
    exact (List.getElem?_eq_some_iff.1 hid).1
  rw [Forest.getElem?_ids hn] at hid
  exact ⟨hn, Option.some.inj hid⟩

/-- Nothing was told, and nothing of it was done. -/
theorem Accounted.quiet (h : s.Accounted births) (hids : s'.forest.ids = s.forest.ids)
    (hcalls : s'.agent.calls = s.agent.calls) (hm : ∀ n, (s'.forest.get n).account = (s.forest.get n).account) :
    s'.Accounted births := by
  refine ⟨h.ids.trans hids.symm, by rw [hcalls, h.creates], ?_⟩
  intro n b hb
  rw [hcalls]
  exact (h.node n b hb).of_account (hm n)

/-- The agent heard of the one node that changed. -/
theorem Accounted.call (h : s.Accounted births) (hi : s.InStep) (hids : s'.forest.ids = s.forest.ids) {n : NodeRef}
    {c : AgentCall} (hn : n < s.forest.size) (hc : c.id = s.forest.idOf n) (hnew : c.created? = none)
    (hcalls : s'.agent.calls = s.agent.calls ++ [c])
    (hother : ∀ m, m ≠ n → (s'.forest.get m).account = (s.forest.get m).account)
    (hself : ∀ b calls, Birth.Account b calls (s.forest.get n) → b.Account (calls ++ [c]) (s'.forest.get n)) :
    s'.Accounted births := by
  refine ⟨h.ids.trans hids.symm, by simp [hcalls, hnew, h.creates], ?_⟩
  intro m b hb
  obtain ⟨hm, hid⟩ := h.birth hb
  rw [hcalls, List.filter_append]
  by_cases e : m = n
  · subst e
    rw [List.filter_cons_of_pos (by simp [hc, hid])]
    exact hself b _ (h.node m b hb)
  · have hne : ¬ c.id = b.id := fun e' => e (hi.distinct m n hm hn (by rw [hid, ← e', hc]))
    rw [List.filter_cons_of_neg (by simpa using hne), List.filter_nil, List.append_nil]
    exact (h.node m b hb).of_account (hother m e)

end Session

theorem Effect.accounted {t : Thread} {s s' : Session} {ms : List Mark} {births : List Birth}
    (he : Effect t s ms s') (hms : ms.flatMap Mark.births = []) (hi : s.InStep) (hf : s.agent.isFound = true)
    (h : s.Accounted births) : s'.Accounted births := by
  have hids : s'.forest.ids = s.forest.ids := by
    rw [he.tells.ids_eq, hms, List.append_nil]
  have hhear := Agent.calls_hear hf
  -- Most changes are of one node, and the agent hears of them in one call.
  have modified : ∀ {n : NodeRef} {g : Node → Node} (c : AgentCall), n < s.forest.size →
      s'.forest = s.forest.modify n g → s'.agent = s.agent.hear c → c.id = s.forest.idOf n → c.created? = none →
      (∀ b calls, Birth.Account b calls (s.forest.get n) → b.Account (calls ++ [c]) (g (s.forest.get n))) →
      s'.Accounted births := by
    intro n g c hn hforest hagent hc hnew hself
    refine h.call hi hids hn hc hnew (by rw [hagent, hhear]) ?_ ?_
    · intro m hm
      rw [hforest, Forest.get_modify_ne (Ne.symm hm)]
    · rw [hforest, Forest.get_modify _ _ _ _ hn, if_pos rfl]
      exact hself
  have ended : ∀ {n : NodeRef}, n < s.forest.size → s'.forest = s.forest.modify n (·.enter .ended s.clock) →
      s'.agent = s.agent.hear (.ended (s.forest.idOf n)) → s'.Accounted births := fun hn hforest hagent =>
    modified _ hn hforest hagent rfl rfl fun b calls hb => (hb.silent rfl rfl rfl).of_account rfl
  cases he with
  | created id d _ => cases hms
  | begun n hn _ _ _ =>
    have haccount := Session.get_begun_same (p := Node.account) (fun _ _ => rfl) (fun _ _ => rfl) s t n
    refine h.call hi hids hn (c := .start (s.forest.idOf n)) rfl rfl (hhear (.start _)) (fun m _ => haccount m) ?_
    intro b calls hb
    exact (hb.silent rfl rfl rfl).of_account (haccount n)
  | completed n hn _ _ _ =>
    obtain ⟨hforest, -, -, hagent, -⟩ := Session.completePath_same (s.unwound t n []) n
    exact ended hn hforest hagent
  | unwound n rest hn _ _ _ _ => exact ended hn rfl rfl
  | finished n hn _ _ => exact ended hn rfl rfl
  | discarded n hn _ _ => exact ended hn rfl rfl
  | updated n u d hn _ _ _ hd =>
    exact modified (g := fun m => { m with details := d }) (.update (s.forest.idOf n) u) hn rfl rfl rfl rfl
      fun b calls hb => hb.updated _ hd
  | failed n className message hn _ _ _ he =>
    exact modified (g := fun m => { m with error := some ⟨className, message⟩ })
      (.error (s.forest.idOf n) className message) hn rfl rfl rfl rfl fun b calls hb => hb.failed _ _ _ he
  | tagged n tag hn _ _ _ =>
    exact modified (g := fun m => { m with receipt := .ofDecoded tag.decode })
      (.setIncomingTag (s.forest.idOf n) tag) hn rfl rfl rfl rfl fun b calls hb => hb.tagged _ tag
  | tagRead n form hn _ _ _ =>
    refine h.call hi hids hn (c := .getOutgoingTag (s.forest.idOf n) form) rfl rfl ?_ (fun _ _ => rfl) ?_
    · show (s.agent.getOutgoingTag (s.forest.idOf n) form).2.calls = _
      rw [Agent.getOutgoingTag_eq, hhear]
    · intro b calls hb
      exact hb.silent rfl rfl rfl
  | tuned a ha => exact h.quiet hids (Agent.calls_of_record ha) fun _ => rfl
  | released n _ =>
    exact h.quiet hids rfl fun m => Forest.get_modify_same (p := Node.account)
      (g := fun m => { m with held := false }) (fun _ => rfl) s.forest n m
  | attributed n key value _ _ =>
    exact h.quiet hids rfl fun m => Forest.get_modify_same (p := Node.account)
      (g := fun m => { m with attributes := m.attributes ++ [(key, value)] }) (fun _ => rfl) s.forest n m
  | linked c p _ _ _ _ =>
    exact h.quiet hids rfl fun m => Forest.get_resolve_same (q := Node.account) (fun _ _ => rfl) (fun _ _ => rfl)
      s.forest c p m
  | _ => exact h.quiet hids rfl fun _ => rfl

theorem Session.Accounted.created {s : Session} {births : List Birth} (h : s.Accounted births) (hi : s.InStep)
    (hf : s.agent.isFound = true) (b : Birth) (hid : b.id ∉ s.forest.ids) :
    (s.create b.owner b.id b.details).2.Accounted (births ++ [b]) := by
  have hids : (s.create b.owner b.id b.details).2.forest.ids = s.forest.ids ++ [b.id] := Forest.ids_add ..
  have hcalls : (s.create b.owner b.id b.details).2.agent.calls = s.agent.calls ++ [.create b.id b.details] :=
    Agent.calls_hear hf (.create b.id b.details)
  have hlength : births.length = s.forest.size := by
    rw [← Forest.length_ids, ← h.ids, List.length_map]
  refine ⟨by rw [hids, List.map_append, h.ids]; rfl, by simp [hcalls, h.creates, AgentCall.created?], ?_⟩
  intro n b' hb
  rw [hcalls, List.filter_append, Session.get_create]
  rcases Nat.lt_or_ge n births.length with hn | hn
  · rw [List.getElem?_append_left hn] at hb
    have hne : ¬ b.id = b'.id := fun e => hid (e ▸ h.ids ▸ List.mem_map_of_mem (List.mem_of_getElem? hb))
    rw [List.filter_cons_of_neg (by simp [AgentCall.id, hne]), if_neg (Nat.ne_of_lt (hlength ▸ hn))]
    simpa using h.node n b' hb
  · rw [List.getElem?_append_right hn, List.getElem?_singleton] at hb
    split at hb
    · rename_i hlast
      have hn' : n = s.forest.size := hlength ▸ Nat.le_antisymm (Nat.le_of_sub_eq_zero hlast) hn
      obtain rfl := Option.some.inj hb
      -- So far the agent has heard nothing of it.
      rw [hi.silent hid, List.filter_cons_of_pos (by simp [AgentCall.id]), if_pos hn']
      exact ⟨rfl, rfl, rfl, rfl⟩
    · cases hb

/-! ## Births of a log -/

namespace Step

/-- The tracer that the command created. -/
def births (x : Step) : List Birth :=
  match x.command with
  | .create id details => [⟨id, x.thread, details⟩]
  | .trace id op _ =>
    match op.details with
    | .ok details => [⟨id, x.thread, details⟩]
    | .error _ => []
  | _ => []

/-- A command creates one tracer before all else, or none. -/
theorem births_cases {x : Step} (h : x.before.Admits x.command) :
    (x.births = [] ∧ x.marks.flatMap Mark.births = []) ∨ ∃ b, x.births = [b] ∧ b.owner = x.thread ∧
      b.id ∉ x.before.forest.ids ∧ Effects x.thread (x.before.create x.thread b.id b.details).2 [] x.after := by
  have hnone : x.command.newId? = none → x.marks.flatMap Mark.births = [] := by
    intro hnew
    apply List.eq_nil_iff_forall_not_mem.2
    intro id hid
    have hnew' := mem_births hid
    rw [hnew] at hnew'
    cases hnew'
  obtain ⟨s, t, c⟩ := x
  obtain ⟨-, hfresh⟩ := h
  cases c with
  | create id d => exact .inr ⟨⟨id, t, d⟩, rfl, rfl, hfresh id rfl, .nil _⟩
  | trace id op o =>
    cases hd : op.details with
    | error e =>
      left
      simp [births, marks, hd, Except.isOk, Except.toBool]
    | ok d =>
      refine .inr ⟨⟨id, t, d⟩, ?_, rfl, hfresh id rfl, Session.trace_setUp_effects o hd⟩
      simp [births, hd]
  | _ => exact .inl ⟨rfl, hnone rfl⟩

end Step

theorem Effects.accounted {t : Thread} {s s' : Session} {ms : List Mark} {births : List Birth}
    (h : Effects t s ms s') (hms : ms.flatMap Mark.births = []) (hi : s.InStep) (hf : s.agent.isFound = true)
    (ha : s.Accounted births) : s'.Accounted births := by
  induction h with
  | nil => exact ha
  | cons he _ ih =>
    rw [List.flatMap_append, List.append_eq_nil_iff] at hms
    exact ih hms.2 (he.tells.inStep hi) (he.tells.isFound_eq.trans hf) (he.accounted hms.1 hi hf ha)

theorem Run.accounted {s₀ s : Session} {log : List Step} (h : Run s₀ s log) (h0 : s₀.IsNew)
    (hf : s₀.agent.isFound = true) : s.Accounted (log.flatMap Step.births) := by
  induction h with
  | nil =>
    refine ⟨by rw [h0.forest]; rfl, by rw [h0.calls_eq_nil]; rfl, ?_⟩
    intro n b hb
    simp at hb
  | @step s log t c h hc ih =>
    have hi := h.inStep h0
    have hfound := h.isFound hf
    rw [List.flatMap_append, List.flatMap_singleton]
    rcases Step.births_cases (x := ⟨s, t, c⟩) hc with ⟨hb, hms⟩ | ⟨b, hb, rfl, hid, he⟩
    · rw [hb, List.append_nil]
      exact (Step.effects (x := ⟨s, t, c⟩) hc).accounted hms hi hfound ih
    · rw [hb]
      have hcreated : Effect b.owner s [.born b.id] (s.create b.owner b.id b.details).2 := .created b.id b.details hid
      exact he.accounted rfl (hcreated.tells.inStep hi) (hcreated.tells.isFound_eq.trans hfound)
        (ih.created hi hfound b hid)

end CallPath
