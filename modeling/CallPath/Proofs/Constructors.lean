import CallPath.Proofs.Batches
import CallPath.Proofs.Receipts
/-!
# Constructors deliver or clean up

A constructor checks the texts it cannot do without, creates a tracer and sets it up. If a text is blank,
nothing has happened. If an option is refused, the tracer is ended and let go: its agent has heard of its
creation, of the options before and of its end, and nothing else is left of it but an ended node. In all
other cases there is a new tracer with just the fields and the tag that were asked for
(`Application.Reachable.constructs`).
-/

namespace CallPath

/-! ## What is checked, and what the tracer gets -/

/-- Refuses the first of some texts that is blank. -/
def requireAll : List (String × String) → Except UsageError Unit
  | [] => return
  | (name, value) :: rest => do
    requireNonBlank name value
    requireAll rest

namespace Operation

/-- The texts of the info object, under the names they are refused by. -/
def infoTexts : Operation → List (String × String)
  | databaseRequest database _ => [("name", database.name), ("vendor", database.vendor)]
  | incomingWebRequest application _ _ =>
    [("virtual_host", application.virtualHost), ("application_id", application.applicationId),
      ("context_root", application.contextRoot)]
  | outgoingMessage system | incomingMessageReceive system | incomingMessageProcess system =>
    [("vendor", system.vendor), ("destination_name", system.destinationName)]
  | _ => []

/-- The other texts that the operation cannot do without. -/
def texts : Operation → List (String × String)
  | incomingRemoteCall method service endpoint | outgoingRemoteCall method service endpoint _ =>
    [("method", method), ("service", service), ("endpoint", endpoint)]
  | databaseRequest _ sql => [("sql", sql)]
  | incomingWebRequest _ url method | outgoingWebRequest url method => [("url", url), ("method", method)]
  | customService method service => [("service_method", method), ("service_name", service)]
  | outgoingMessage _ | incomingMessageReceive _ | incomingMessageProcess _ | inProcessLink _ => []

/-- The fields of a tracer that is made as it was asked for. -/
def fields (o : TraceOptions) : Operation → Details
  | incomingRemoteCall method service endpoint =>
    .incomingRemoteCall { method, service, endpoint, protocolName := o.protocolName }
  | outgoingRemoteCall method service endpoint channel =>
    .outgoingRemoteCall { method, service, endpoint, channel := some channel, protocolName := o.protocolName }
  | databaseRequest database sql => .databaseRequest { database, sql }
  | incomingWebRequest application url method =>
    .incomingWebRequest {
      application, url, method, requestHeaders := o.headers.pairs, remoteAddress := o.remoteAddress }
  | outgoingWebRequest url method => .outgoingWebRequest { url, method, requestHeaders := o.headers.pairs }
  | outgoingMessage system => .outgoingMessage { system }
  | incomingMessageReceive system => .incomingMessageReceive system
  | incomingMessageProcess system => .incomingMessageProcess { system }
  | customService method service => .customService { method, service }
  | inProcessLink link => .inProcessLink link.target

/-- The fields without any options, if none of the given texts is blank. -/
def checking (op : Operation) (texts : List (String × String)) : Except UsageError Details := do
  requireAll texts
  return op.fields {}

/-- The info object is checked first. -/
theorem details_eq (op : Operation) : op.details = op.checking (op.infoTexts ++ op.texts) := by
  cases op <;> simp only [details, checking, infoTexts, texts, fields, requireAll, DatabaseInfo.checked,
    WebApplicationInfo.checked, MessagingSystemInfo.checked, DatabaseInfo.create, WebApplicationInfo.create,
    MessagingSystemInfo.create, Details.newIncomingRemoteCall, Details.newOutgoingRemoteCall,
    Details.requireRemoteCall, Details.newDatabaseRequest, Details.newIncomingWebRequest,
    Details.newOutgoingWebRequest, Details.newCustomService, Details.newOutgoingMessage,
    Details.newIncomingMessageReceive, Details.newIncomingMessageProcess, bind_assoc, pure_bind, List.nil_append,
    List.cons_append]

theorem kind_fields (op : Operation) (o : TraceOptions) : (op.fields o).kind = op.kind := by
  cases op <;> rfl

end Operation

/-- Options are for fields that the kind has. -/
theorem TraceOptions.field_mem_of_updates {o : TraceOptions} {k : Kind} {u : Update} (hu : u ∈ o.updates k) :
    u.field ∈ k.fields := by
  cases k <;> simp only [updates, KeyValues.requestHeaders, List.mem_append, List.mem_map, Option.mem_toList,
    List.not_mem_nil] at hu
  all_goals grind [Update.field, Kind.fields]

/-- All options together give the fields that were asked for. -/
theorem Operation.setting_updates (op : Operation) (o : TraceOptions) :
    (op.fields {}).setting (o.updates op.kind) = op.fields o := by
  obtain ⟨protocolName, headers, remoteAddress, tags⟩ := o
  have hheaders : ∀ d : Details,
      d.setting headers.requestHeaders = PairSetter.requestHeaders.append d headers.pairs := fun d =>
    PairSetter.requestHeaders.setting_eq d headers.pairs
  cases op with
  | incomingRemoteCall | outgoingRemoteCall => cases protocolName <;> rfl
  | incomingWebRequest application url method =>
    show Details.setting _ (headers.requestHeaders ++ _) = _
    rw [Details.setting_append, hheaders]
    cases remoteAddress <;> rfl
  | outgoingWebRequest url method => exact hheaders _
  | _ => rfl

/-! ## What an agent keeps of it -/

namespace Recorder

theorem tracers_updates (r : Recorder) (id : TracerId) (us : List Update) :
    (r.hearAll (us.map (.update id))).tracers = r.tracers := by
  induction us generalizing r with
  | nil => rfl
  | cons u us ih =>
    refine (ih (r.hear (.update id u))).trans ?_
    have hentered : (AgentCall.update id u).entered? (r.tracerState id) = none := by
      simp [AgentCall.entered?, AgentCall.isCreation, AgentCall.next?]
    rw [tracers_hear, AgentCall.id, hentered]
    rfl

/-- A tracer that is created and ended is not live afterwards, and nor is any other. -/
theorem liveTracers_brief {r : Recorder} {id : TracerId} (h : r.tracerState id = none) (d : Details)
    (us : List Update) :
    (r.hearAll ([.create id d] ++ us.map (.update id) ++ [.ended id])).liveTracers = r.liveTracers := by
  obtain ⟨r', hr'⟩ : ∃ r', r' = (r.hear (.create id d)).hearAll (us.map (.update id)) := ⟨_, rfl⟩
  have htracers : r'.tracers = (r.hear (.create id d)).tracers := by rw [hr', tracers_updates]
  have hstate : r'.tracerState id = some .created := by
    rw [tracerState, htracers]
    exact (congrFun (r.tracerState_hear (.create id d)) id).trans (Function.update_self ..)
  have hlive : r'.liveTracers = r.liveTracers + 1 := by
    have hcreated := r.liveTracers_hear (.create id d)
    rw [AgentCall.id, h] at hcreated
    unfold liveTracers
    rw [htracers]
    exact hcreated
  have hended := r'.liveTracers_hear (.ended id)
  rw [AgentCall.id, hstate, hlive] at hended
  have hall : r.hearAll ([.create id d] ++ us.map (.update id) ++ [.ended id]) = r'.hear (.ended id) := by
    rw [hr', hearAll, List.foldl_append, List.foldl_append]
    rfl
  rw [hall]
  exact Nat.add_right_cancel hended

/-- It does not know of ids that were never issued. -/
theorem Follows.tracerState_eq_none {r : Recorder} {f : Forest} (h : r.Follows f) {id : TracerId}
    (hid : id ∉ f.ids) : r.tracerState id = none := by
  obtain ⟨-, ht⟩ := hearAll_of_statesAfter fun id => statesAfter_isSome (h.heard_or_silent id)
  have hrec := h.replay
  unfold IsReplay record at hrec
  simp only [Prod.mk.injEq] at hrec
  have hst := ht id
  rw [h.silent id hid] at hst
  unfold tracerState
  rw [hrec.2.1]
  exact Option.some.inj hst

end Recorder

/-! ## Building a tracer -/

section Texts

variable {pre post : List (String × String)} {name value : String}

theorem requireAll_append (h : ∀ p ∈ pre, Text.allBlank p.2 = false) (rest : List (String × String)) :
    requireAll (pre ++ rest) = requireAll rest := by
  induction pre with
  | nil => rfl
  | cons p pre ih =>
    obtain ⟨hp, hpre⟩ := List.forall_mem_cons.1 h
    rw [List.cons_append, requireAll, (requireNonBlank_eq_ok (u := ())).2 hp]
    exact ih hpre

theorem requireAll_eq_ok (h : ∀ p ∈ pre, Text.allBlank p.2 = false) : requireAll pre = .ok () := by
  have hall := requireAll_append h []
  rwa [List.append_nil] at hall

theorem requireAll_blank (h : ∀ p ∈ pre, Text.allBlank p.2 = false) (hv : Text.allBlank value = true) :
    requireAll (pre ++ (name, value) :: post) = .error (.blankArgument name value) := by
  rw [requireAll_append h, requireAll, requireNonBlank, if_pos hv]
  rfl

end Texts

/-- What a tracer that is made as it was asked for knows of a tag. -/
def Operation.receipt (o : TraceOptions) : Operation → TagReceipt
  | inProcessLink link => link.target.elim .absent .carries
  | op => (o.tagFor op.kind).elim .absent fun tag => .ofDecoded tag.decode

theorem Operation.receipt_eq (op : Operation) (o : TraceOptions) :
    ((op.fields {}).linkTarget.elim .absent TagReceipt.carries).after (o.tagFor op.kind) = op.receipt o := by
  cases op with
  | inProcessLink => rfl
  | _ =>
    dsimp only [receipt, fields, Details.linkTarget, Option.elim_none]
    generalize TraceOptions.tagFor o _ = tag?
    cases tag? <;> rfl

/-- A new tracer takes whatever is valid by itself and is for its kind. -/
theorem Node.verdict_of_created {m : Node} {t : Thread} {u : Update} (ho : m.owner = t) (hst : m.state = .created)
    (hk : u.field ∈ m.kind.fields) : m.verdict t u = u.validate := by
  unfold verdict
  rw [(requireThread_eq_ok (u := ())).2 ho, (Session.requireUpdatable_eq_ok (u := ())).2 (.inl hst), if_pos hk]
  cases u.validate <;> rfl

namespace Session

variable {s : Session} {t : Thread} {n : NodeRef} {id : TracerId} {op : Operation} {o : TraceOptions}
  {texts : List (String × String)}

/-- Creates a tracer and sets it up, if none of the given texts is blank. -/
def build (s : Session) (t : Thread) (id : TracerId) (texts : List (String × String)) (op : Operation)
    (o : TraceOptions) : Except UsageError NodeRef × Session :=
  match op.checking texts with
  | .error e => (.error e, s)
  | .ok d =>
    let (n, s) := s.create t id d
    match s.setUp t n op.kind o with
    | (.ok (), s) => (.ok n, s)
    | (.error e, s) => (.error e, ((s.endTracer t n).2).drop t n)

/-- A trace checks the info object as well. -/
theorem trace_eq_build (s : Session) (t : Thread) (id : TracerId) (op : Operation) (o : TraceOptions) :
    s.trace t id op o = s.build t id (op.infoTexts ++ op.texts) op o := by
  unfold trace createFor build
  rw [op.details_eq]
  cases op.checking (op.infoTexts ++ op.texts) <;> rfl

theorem setIncomingTag_of_created (ho : (s.forest.get n).owner = t) (hk : (s.forest.get n).kind.acceptsTag = true)
    (hst : (s.forest.get n).state = .created) (tag : IncomingTag) :
    s.setIncomingTag t n tag = (.ok (), (if tag.decode.isNone && !tag.isEmpty then
      s.log (.tagUndecodable (s.forest.label n)) else s).tagged n tag) := by
  have hcap : (s.forest.get n).requireCapability .incomingTaggable = .ok () := Node.requireCapability_eq_ok.2 hk
  unfold setIncomingTag
  simp only [(Node.requireThread_eq_ok (u := ())).2 ho, hcap, (Node.requireState_eq_ok (u := ())).2 hst]
  unfold tagged
  split <;> rfl

/-- A new tracer takes the only tag there is, if it can have tags. -/
theorem applyIncomingTags_of_created (ho : (s.forest.get n).owner = t)
    (hk : (s.forest.get n).kind.acceptsTag = true) (hst : (s.forest.get n).state = .created) (tags : IncomingTags) :
    ∃ s', s.applyIncomingTags t n tags = (.ok (), s') ∧
      s'.forest = s.forest.modify n (fun m => { m with receipt := m.receipt.after tags.only? }) ∧
      s'.agent.record = (s.agent.hearAll (tags.only?.toList.map (.setIncomingTag (s.forest.idOf n)))).record ∧
      s' = { s with forest := s'.forest, agent := s'.agent, events := s'.events } := by
  have given : ∀ tag, ∃ s', s.setIncomingTag t n tag = (.ok (), s') ∧
      s'.forest = s.forest.modify n (fun m => { m with receipt := .ofDecoded tag.decode }) ∧
      s'.agent.record = (s.agent.setIncomingTag (s.forest.idOf n) tag).record ∧
      s' = { s with forest := s'.forest, agent := s'.agent, events := s'.events } := by
    intro tag
    refine ⟨_, setIncomingTag_of_created ho hk hst tag, ?_⟩
    split <;> exact ⟨rfl, rfl, rfl⟩
  have same : s.forest = s.forest.modify n (fun m => { m with receipt := m.receipt.after none }) :=
    (Forest.modify_same rfl).symm
  obtain ⟨string, bytes⟩ := tags
  cases string with
  | none =>
    cases bytes with
    | none => exact ⟨s, rfl, same, rfl, rfl⟩
    | some data => exact given (.bytes data)
  | some text =>
    cases bytes with
    | none => exact given (.string text)
    | some data => exact ⟨_, rfl, same, rfl, rfl⟩

/-- If no option is refused, the tag is not. -/
theorem setUp_of_created {kind : Kind} (ho : (s.forest.get n).owner = t) (hk : (s.forest.get n).kind = kind)
    (hst : (s.forest.get n).state = .created) (h : ∀ u ∈ o.updates kind, (s.forest.get n).verdict t u = .ok ()) :
    ∃ s', s.setUp t n kind o = (.ok (), s') ∧
      s'.forest = (s.amended n (o.updates kind)).forest.modify n
        (fun m => { m with receipt := m.receipt.after (o.tagFor kind) }) ∧
      s'.agent.record = (s.agent.hearAll ((o.updates kind).map (.update (s.forest.idOf n)) ++
        (o.tagFor kind).toList.map (.setIncomingTag (s.forest.idOf n)))).record ∧
      s' = { s with forest := s'.forest, agent := s'.agent, events := s'.events } := by
  unfold setUp TraceOptions.tagFor
  rw [updateAll_accepted h, Agent.hearAll_append]
  cases hacc : kind.acceptsTag with
  | false => exact ⟨_, rfl, (Forest.modify_same rfl).symm, rfl, rfl⟩
  | true =>
    have same {α : Type} {q : Node → α} (hq : ∀ m d, q { m with details := d } = q m) :=
      get_amended_same hq s n n (o.updates kind)
    obtain ⟨s', hs', hforest, hrecord, hrest⟩ := applyIncomingTags_of_created (s := s.amended n (o.updates kind))
      (t := t) ((same (q := Node.owner) fun _ _ => rfl).trans ho)
      (by rw [kind_amended, hk, hacc]) ((same (q := Node.state) fun _ _ => rfl).trans hst) o.tags
    have hid : (s.amended n (o.updates kind)).forest.idOf n = s.forest.idOf n := same (q := Node.id) fun _ _ => rfl
    rw [hid] at hrecord
    exact ⟨s', hs', hforest, hrecord, hrest⟩

/-! ## What comes of a constructor -/

/-- An option was refused: what is left of the new tracer is an ended node. -/
structure CleanedUp (s : Session) (t : Thread) (id : TracerId) (op : Operation) (applied : List Update)
    (s' : Session) : Prop where
  size : s'.forest.size = s.forest.size + 1
  get : s'.forest.get s.forest.size =
    { id, owner := t, details := (op.fields {}).setting applied, createdAt := s.clock, receipt := op.receipt {},
      state := .ended, endedAt := some (s.clock + 1) }
  others : ∀ n, n ≠ s.forest.size → s'.forest.get n = s.forest.get n
  calls : s'.agent.calls = s.agent.calls ++
    if s.agent.isFound then [.create id (op.fields {})] ++ applied.map (.update id) ++ [.ended id] else []
  live : ∀ r, s.agent.recorder? = some r → ∃ r', s'.agent.recorder? = some r' ∧ r'.liveTracers = r.liveTracers
  metrics : s'.metrics =
    { s.metrics.recordCreated op.kind with
      ended := s.metrics.ended + 1
      usageErrors := s.metrics.usageErrors + 1 }
  /-- So the paths and the archive are as before, and the clock was read for the two times of the node only. -/
  rest : s' = { s with
    forest := s'.forest, agent := s'.agent, metrics := s'.metrics, events := s'.events, clock := s.clock + 2 }

/-- There is a new tracer, as it was asked for. -/
structure Delivered (s : Session) (t : Thread) (id : TracerId) (op : Operation) (o : TraceOptions) (s' : Session) :
    Prop where
  size : s'.forest.size = s.forest.size + 1
  get : s'.forest.get s.forest.size =
    { id, owner := t, details := op.fields o, createdAt := s.clock, receipt := op.receipt o, state := .created,
      held := true }
  others : ∀ n, n ≠ s.forest.size → s'.forest.get n = s.forest.get n
  calls : s'.agent.calls = s.agent.calls ++
    if s.agent.isFound then
      [.create id (op.fields {})] ++ (o.updates op.kind).map (.update id) ++
        (o.tagFor op.kind).toList.map (.setIncomingTag id)
    else []
  metrics : s'.metrics = s.metrics.recordCreated op.kind
  rest : s' = { s with
    forest := s'.forest, agent := s'.agent, metrics := s'.metrics, events := s'.events, clock := s.clock + 1 }

/-- What comes of a constructor that cannot do without some texts. -/
structure Constructs (s : Session) (t : Thread) (id : TracerId) (texts : List (String × String)) (op : Operation)
    (o : TraceOptions) (y : Except UsageError NodeRef × Session) : Prop where
  blank : ∀ pre name value post, texts = pre ++ (name, value) :: post → (∀ p ∈ pre, Text.allBlank p.2 = false) →
    Text.allBlank value = true → y = (.error (.blankArgument name value), s)
  cleansUp : (∀ p ∈ texts, Text.allBlank p.2 = false) → ∀ pre u post e, o.updates op.kind = pre ++ u :: post →
    (∀ v ∈ pre, v.validate = .ok ()) → u.validate = .error e → y.1 = .error e ∧ s.CleanedUp t id op pre y.2
  /-- No tag is refused. -/
  delivers : (∀ p ∈ texts, Text.allBlank p.2 = false) → (∀ u ∈ o.updates op.kind, u.validate = .ok ()) →
    y.1 = .ok s.forest.size ∧ s.Delivered t id op o y.2

/-- A new tracer takes the options for its kind, as far as they are valid by themselves. -/
theorem verdict_created (s : Session) (t : Thread) (id : TracerId) (op : Operation) (o : TraceOptions) {u : Update}
    (hu : u ∈ o.updates op.kind) :
    ((s.create t id (op.fields {})).2.forest.get s.forest.size).verdict t u = u.validate := by
  apply Node.verdict_of_created <;> rw [get_created]
  show u.field ∈ (op.fields {}).kind.fields
  rw [op.kind_fields]
  exact TraceOptions.field_mem_of_updates hu

theorem checking_eq_ok (htexts : ∀ p ∈ texts, Text.allBlank p.2 = false) :
    op.checking texts = .ok (op.fields {}) := by
  rw [Operation.checking, requireAll_eq_ok htexts]
  rfl

theorem build_of_accepted {s' : Session} (htexts : ∀ p ∈ texts, Text.allBlank p.2 = false)
    (h : (s.create t id (op.fields {})).2.setUp t s.forest.size op.kind o = (.ok (), s')) :
    s.build t id texts op o = (.ok s.forest.size, s') := by
  have hnew : (s.create t id (op.fields {})).1 = s.forest.size := rfl
  unfold build
  rw [checking_eq_ok htexts]
  simp only [hnew, h]

/-- A tracer that was refused an option has not started, so its end is not refused. -/
theorem build_of_refused {s' : Session} {e : UsageError} (htexts : ∀ p ∈ texts, Text.allBlank p.2 = false)
    (h : (s.create t id (op.fields {})).2.setUp t s.forest.size op.kind o = (.error e, s')) :
    s.build t id texts op o = (.error e, (s'.finish s.forest.size).released s.forest.size) := by
  have hshape := (setUp_effects (s := (s.create t id (op.fields {})).2) (t := t) (n := s.forest.size) op.kind o
    (by simp)).2
  rw [h] at hshape
  have hnode := hshape.forest.node s.forest.size
  rw [get_created] at hnode
  have hn : s.forest.size < s'.forest.size := by
    rw [hshape.forest.size]
    simp
  have hend : s'.endTracer t s.forest.size = (.ok (), s'.finish s.forest.size) :=
    endTracer_of_created hnode.owner hnode.state
  have hended : ((s'.finish s.forest.size).forest.get s.forest.size).state = .ended :=
    congrArg Node.state ((Forest.get_modify _ _ _ _ hn).trans (if_pos rfl))
  have hnew : (s.create t id (op.fields {})).1 = s.forest.size := rfl
  unfold build
  rw [checking_eq_ok htexts]
  simp only [hnew, h, hend, drop_of_ended hended]

/-- The options before the first that is refused are made. -/
theorem setUp_partial {pre post : List Update} {u : Update} {e : UsageError}
    (hus : o.updates op.kind = pre ++ u :: post) (hpre : ∀ v ∈ pre, v.validate = .ok ()) (hu : u.validate = .error e) :
    (s.create t id (op.fields {})).2.setUp t s.forest.size op.kind o =
      (.error e, ((s.create t id (op.fields {})).2.amended s.forest.size pre).refused s.forest.size e) := by
  have hverdict : ∀ v ∈ pre ++ u :: post,
      ((s.create t id (op.fields {})).2.forest.get s.forest.size).verdict t v = v.validate :=
    fun v hv => s.verdict_created t id op o (hus ▸ hv)
  unfold setUp
  rw [hus, updateAll_refused (fun v hv => (hverdict v (by simp [hv])).trans (hpre v hv))
    ((hverdict u (by simp)).trans hu)]

theorem get_amended_self (hn : n < s.forest.size) (us : List Update) : (s.amended n us).forest.get n =
    { s.forest.get n with details := (s.forest.get n).details.setting us } :=
  (Forest.get_modify _ _ _ _ hn).trans (if_pos rfl)

theorem agent_created (s : Session) (t : Thread) (id : TracerId) (op : Operation) :
    (s.create t id (op.fields {})).2.agent = s.agent.hearAll [.create id (op.fields {})] := rfl

theorem metrics_created (s : Session) (t : Thread) (id : TracerId) (op : Operation) :
    (s.create t id (op.fields {})).2.metrics = s.metrics.recordCreated op.kind := by
  rw [← op.kind_fields {}]
  rfl

/-- A tracer of which no option is refused is as it was asked for. -/
theorem setUp_accepted (hus : ∀ u ∈ o.updates op.kind, u.validate = .ok ()) :
    ∃ s', (s.create t id (op.fields {})).2.setUp t s.forest.size op.kind o = (.ok (), s') ∧
      s.Delivered t id op o s' := by
  have hnode := s.get_created t id (op.fields {})
  have hn : s.forest.size < (s.create t id (op.fields {})).2.forest.size := by simp
  obtain ⟨s', h, hforest, hrecord, hrest⟩ := setUp_of_created (s := (s.create t id (op.fields {})).2) (t := t)
    (n := s.forest.size) (o := o) (by rw [hnode]) (by rw [hnode]; exact op.kind_fields {}) (by rw [hnode])
    fun u hu => (s.verdict_created t id op o hu).trans (hus u hu)
  have hget := get_amended_self hn (o.updates op.kind)
  rw [hnode, op.setting_updates] at hget
  rw [idOf_created, agent_created, ← Agent.hearAll_append, ← List.append_assoc] at hrecord
  refine ⟨s', h, ?_, ?_, ?_, ?_, ?_, ?_⟩
  · rw [hforest, Forest.size_modify]
    exact (Forest.size_modify ..).trans (s.size_create ..)
  · rw [hforest, Forest.get_modify _ _ _ _ (by rwa [amended, Forest.size_modify]), if_pos rfl, hget,
      ← op.receipt_eq o]
  · intro m hm
    rw [hforest, Forest.get_modify_ne (Ne.symm hm), amended, Forest.get_modify_ne (Ne.symm hm), get_create, if_neg hm]
  · rw [Agent.calls_of_record hrecord, Agent.calls_hearAll]
  · rw [hrest]
    exact s.metrics_created t id op
  · rw [hrest]
    rfl

/-- A tracer of which an option is refused is left as an ended node. -/
theorem cleanedUp (hi : s.InStep) (hid : id ∉ s.forest.ids) (op : Operation) (applied : List Update)
    (e : UsageError) :
    s.CleanedUp t id op applied
      (((((s.create t id (op.fields {})).2.amended s.forest.size applied).refused s.forest.size e).finish
        s.forest.size).released s.forest.size) := by
  have hn : s.forest.size < (s.create t id (op.fields {})).2.forest.size := by simp
  have hlast : (((s.create t id (op.fields {})).2.amended s.forest.size applied).refused s.forest.size e).forest.idOf
      s.forest.size = id :=
    (get_amended_same (q := Node.id) (fun _ _ => rfl) ..).trans (s.idOf_created t id _)
  generalize hs' : ((((s.create t id (op.fields {})).2.amended s.forest.size applied).refused s.forest.size e).finish
    s.forest.size).released s.forest.size = s'
  have hforest : s'.forest = (s.create t id (op.fields {})).2.forest.modify s.forest.size fun m =>
      { Node.enter { m with details := m.details.setting applied } .ended (s.clock + 1) with held := false } := by
    rw [← hs']
    exact (Forest.modify_modify ..).trans (Forest.modify_modify ..)
  have hagent : s'.agent =
      s.agent.hearAll ([.create id (op.fields {})] ++ applied.map (.update id) ++ [.ended id]) := by
    rw [Agent.hearAll_append, Agent.hearAll_append, ← s.agent_created t id op, ← hs']
    show ((s.create t id (op.fields {})).2.agent.hearAll _).hear (.ended _) = _
    rw [hlast, idOf_created]
    rfl
  refine ⟨?_, ?_, ?_, ?_, ?_, ?_, ?_⟩
  · rw [hforest, Forest.size_modify, size_create]
  · have hnone : TraceOptions.tagFor {} op.kind = none := ite_self none
    rw [hforest, Forest.get_modify _ _ _ _ hn, if_pos rfl, get_created, ← op.receipt_eq {}, hnone]
    rfl
  · intro m hm
    rw [hforest, Forest.get_modify_ne (Ne.symm hm), get_create, if_neg hm]
  · rw [hagent, Agent.calls_hearAll]
  · intro r hr
    refine ⟨_, by rw [hagent, Agent.recorder?_hearAll, hr]; rfl, ?_⟩
    exact Recorder.liveTracers_brief ((hi.follows r hr).tracerState_eq_none hid) (op.fields {}) applied
  · rw [← hs', ← s.metrics_created t id op]
    rfl
  · rw [← hs']
    rfl

theorem InStep.builds (hi : s.InStep) (t : Thread) (hid : id ∉ s.forest.ids) (texts : List (String × String))
    (op : Operation) (o : TraceOptions) : s.Constructs t id texts op o (s.build t id texts op o) where
  blank pre name value post htexts hpre hv := by
    unfold build Operation.checking
    rw [htexts, requireAll_blank hpre hv]
    rfl
  cleansUp htexts pre u post e hus hpre hu := by
    rw [build_of_refused htexts (setUp_partial hus hpre hu)]
    exact ⟨rfl, cleanedUp hi hid op pre e⟩
  delivers htexts hus := by
    obtain ⟨s', h, hs'⟩ : ∃ s', (s.create t id (op.fields {})).2.setUp t s.forest.size op.kind o = (.ok (), s') ∧
        s.Delivered t id op o s' := setUp_accepted hus
    rw [build_of_accepted htexts h]
    exact ⟨rfl, hs'⟩

end Session

namespace Application

/-- A constructor refuses a blank text, or cleans up after an option that was refused, or delivers a tracer as it was
asked for. Info objects that are there already are not checked again. -/
theorem Reachable.constructs {app : Application} (h : app.Reachable) {r : SessionRef} (hr : r < app.sessions.size)
    (t : Thread) {id : TracerId} (hid : app.IsFresh id) (op : Operation) (o : TraceOptions) :
    (app.get r).Constructs t id (op.infoTexts ++ op.texts) op o ((app.get r).trace t id op o) ∧
      (app.get r).Constructs t id op.texts op o ((app.get r).build t id op.texts op o) := by
  rw [Session.trace_eq_build]
  exact ⟨(h.inStep hr).builds t (hid r hr) _ op o, (h.inStep hr).builds t (hid r hr) _ op o⟩

/-- A request is served while the constructors are called. -/
def constructorProgram : List (SessionRef × Thread × Command) :=
  [(1, ⟨"a"⟩, .create (.ofNat 1) (.customService ⟨"method", "service"⟩)),
    (1, ⟨"a"⟩, .create (.ofNat 2) (.incomingMessageProcess ⟨⟨"vendor", "queue", .queue, {}⟩, none, none⟩)),
    (1, ⟨"a"⟩, .start 1)]

theorem constructs_constructorProgram :
    let app := (({} : Application).newSession "session" (.recording {}) {}).2.played constructorProgram
    let s := app.get 1
    let op : Operation := .incomingWebRequest ⟨"host", "application", "/"⟩ "url" "GET"
    let o : TraceOptions := {
      headers := .ofList [("a", "1"), ("b", "2"), ("c", " "), ("d", "4")]
      tags := { string := some "tag" } }
    let o' : TraceOptions := { o with headers := .ofList [("a", "1"), ("b", "2")] }
    -- The vendor is blank, which is checked where the info object is made and nowhere else.
    let unnamed : Operation := .databaseRequest ⟨"name", "", {}⟩ "sql"
    s.Constructs ⟨"a"⟩ (.ofNat 3) (op.infoTexts ++ op.texts) op o (s.trace ⟨"a"⟩ (.ofNat 3) op o) ∧
      s.Constructs ⟨"a"⟩ (.ofNat 3) op.texts op o' (s.build ⟨"a"⟩ (.ofNat 3) op.texts op o') ∧
      s.trace ⟨"a"⟩ (.ofNat 3) unnamed o = (.error (.blankArgument "vendor" ""), s) ∧
      (s.build ⟨"a"⟩ (.ofNat 3) unnamed.texts unnamed o).1 = .ok 2 ∧
      ((s.build ⟨"a"⟩ (.ofNat 3) unnamed.texts unnamed o).2.forest.get 2).details = unnamed.fields {} ∧
      (s.trace ⟨"a"⟩ (.ofNat 3) op o).1 = .error (.blankArgument "value" " ") ∧
      (s.trace ⟨"a"⟩ (.ofNat 3) op o).2.agent.calls = s.agent.calls ++
        [.create (.ofNat 3) (.incomingWebRequest {
            application := ⟨"host", "application", "/"⟩, url := "url", method := "GET" }),
          .update (.ofNat 3) (.requestHeader "a" "1"), .update (.ofNat 3) (.requestHeader "b" "2"), .ended (.ofNat 3)] ∧
      (s.trace ⟨"a"⟩ (.ofNat 3) op o').1 = .ok 2 ∧
      ((s.trace ⟨"a"⟩ (.ofNat 3) op o').2.forest.get 2).receipt = .undecodable := by
  have hnew : (Agent.recording {}).IsNew := by
    rintro r ⟨⟩
    exact ⟨rfl, rfl, rfl⟩
  have hrun := (Reachable.init.newSession "session" (.recording {}) {} hnew).played constructorProgram
    (by decide +kernel)
  have hid : ((({} : Application).newSession "session" (.recording {}) {}).2.played constructorProgram).IsFresh
      (.ofNat 3) := by decide +kernel
  have constructs := fun op o => Reachable.constructs hrun (r := 1) (by decide +kernel) ⟨"a"⟩ hid op o
  exact ⟨(constructs _ _).1, (constructs _ _).2, by decide +kernel, by decide +kernel, by decide +kernel,
    by decide +kernel, by decide +kernel, by decide +kernel, by decide +kernel⟩

end Application

end CallPath
