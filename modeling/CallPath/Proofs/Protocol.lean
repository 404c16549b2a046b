import CallPath.Proofs.Effects
import CallPath.Proofs.Monitor
/-!
# What agents hear of the tracers

Every effect tells the agent of its session about one tracer at most (`Effect.tells`), and what it
tells carries on what the agent has heard of that tracer. So in every state of an application
an agent has heard the beginning of a conversation about each tracer, a recorder finds nothing to
complain of, and it knows the state of every tracer (`Reachable.keepsProtocol`).
-/

namespace CallPath

/-! ## Recorders replay their calls -/

namespace Recorder

/-- What is recorded after a call depends on nothing but what was recorded before. -/
theorem record_hear_congr {r r' : Recorder} (h : r.record = r'.record) (c : AgentCall) :
    (r.hear c).record = (r'.hear c).record := by
  obtain ⟨state, rejected, failure, calls, tracers, violations⟩ := r
  obtain ⟨state', rejected', failure', calls', tracers', violations'⟩ := r'
  cases h
  rw [hear_eq, hear_eq]
  rfl

/-- All it has recorded comes from the calls it has kept. -/
def IsReplay (r : Recorder) : Prop :=
  r.record = (({} : Recorder).hearAll r.calls).record

theorem IsReplay.hear {r : Recorder} (h : r.IsReplay) (c : AgentCall) : (r.hear c).IsReplay := by
  unfold IsReplay
  rw [calls_hear, hearAll, List.foldl_append]
  exact record_hear_congr h c

end Recorder

/-! ## What effects tell the agent -/

/-- The agent after a call. -/
def Agent.hear (a : Agent) (c : AgentCall) : Agent :=
  a.mapRecorder (·.hear c)

theorem Agent.getOutgoingTag_eq (a : Agent) (id : TracerId) (form : TagForm) :
    (a.getOutgoingTag id form).2 = a.hear (.getOutgoingTag id form) := by
  obtain ⟨backend, callback⟩ := a
  cases backend <;> rfl

theorem Agent.recorder?_hear (a : Agent) (c : AgentCall) : (a.hear c).recorder? = a.recorder?.map (·.hear c) := by
  obtain ⟨backend, callback⟩ := a
  cases backend <;> rfl

theorem Agent.recorder?_of_isFound {a : Agent} (h : a.isFound = true) : ∃ r, a.recorder? = some r := by
  obtain ⟨backend, callback⟩ := a
  cases backend with
  | null => cases h
  | recorder r => exact ⟨r, rfl⟩

theorem Agent.isFound_eq (a : Agent) : a.isFound = a.record.isSome := by
  obtain ⟨backend, callback⟩ := a
  cases backend <;> rfl

/-- No call makes an agent appear or go away. -/
theorem Agent.isFound_hear (a : Agent) (c : AgentCall) : (a.hear c).isFound = a.isFound := by
  rw [isFound_eq, isFound_eq, record, record, recorder?_hear]
  cases a.recorder? <;> rfl

theorem Agent.calls_eq_nil {a : Agent} (h : a.isFound = false) : a.calls = [] := by
  obtain ⟨backend, callback⟩ := a
  cases backend with
  | null => rfl
  | recorder r => cases h

/-- The life of a node's tracer. -/
def Node.life (m : Node) : Life :=
  ⟨m.id, m.kind, m.state, m.error.isSome⟩

namespace Mark

/-- The id that was issued. -/
def births : Mark → List TracerId
  | born id => [id]
  | _ => []

end Mark

/-- What the agent hears when a session changes, with the ids that were issued. -/
inductive Tells (s : Session) : List TracerId → Session → Prop
  | nothing {s' : Session} (ha : s'.agent.record = s.agent.record) (hs : s'.forest.size = s.forest.size)
      (hl : ∀ m, (s'.forest.get m).life = (s.forest.get m).life) : Tells s [] s'
  | call {s' : Session} (n : NodeRef) (c : AgentCall) (hn : n < s.forest.size) (ha : s'.agent = s.agent.hear c)
      (hid : c.id = s.forest.idOf n) (hs : s'.forest.size = s.forest.size)
      (hother : ∀ m, m ≠ n → (s'.forest.get m).life = (s.forest.get m).life)
      (hself : s'.forest.idOf n = s.forest.idOf n)
      (hheard : ∀ calls, Heard (s.forest.get n).life calls → Heard (s'.forest.get n).life (calls ++ [c])) :
      Tells s [] s'
  | created (t : Thread) (id : TracerId) (details : Details) (hid : id ∉ s.forest.ids) :
      Tells s [id] (s.create t id details).2

namespace Tells

variable {s s' : Session} {n : NodeRef}

/-- A node was changed in a way that does not concern the agent. -/
theorem of_quiet {g : Node → Node} (hf : s'.forest = s.forest.modify n g) (hg : ∀ m : Node, (g m).life = m.life)
    (ha : s'.agent = s.agent) : Tells s [] s' := by
  refine .nothing (by rw [ha]) (by rw [hf, Forest.size_modify]) fun m => ?_
  rw [hf]
  exact Forest.get_modify_same hg s.forest n m

/-- A node was changed, after changes that do not concern the agent. -/
theorem of_modify {f : Forest} {g : Node → Node} (c : AgentCall) (hn : n < s.forest.size)
    (hf : s'.forest = f.modify n g) (hs : f.size = s.forest.size) (hl : ∀ m, (f.get m).life = (s.forest.get m).life)
    (hg : ∀ m : Node, (g m).id = m.id) (ha : s'.agent = s.agent.hear c) (hid : c.id = s.forest.idOf n)
    (hheard : ∀ calls, Heard (s.forest.get n).life calls → Heard (g (f.get n)).life (calls ++ [c])) :
    Tells s [] s' := by
  have hself : s'.forest.get n = g (f.get n) := by
    rw [hf, Forest.get_modify f n n g (by rwa [hs]), if_pos rfl]
  refine .call n c hn ha hid (by rw [hf, Forest.size_modify, hs]) (fun m hm => ?_) ?_ fun calls h => ?_
  · rw [hf, Forest.get_modify_ne (Ne.symm hm), hl]
  · show (s'.forest.get n).id = _
    rw [hself, hg]
    exact congrArg Life.id (hl n)
  · rw [hself]
    exact hheard calls h

/-- A tracer was ended. -/
theorem of_ended (hn : n < s.forest.size) (hst : (s.forest.get n).state ≠ .ended)
    (ha : s'.agent = s.agent.endTracer (s.forest.idOf n))
    (hf : s'.forest = s.forest.modify n (·.enter .ended s.clock)) : Tells s [] s' :=
  of_modify (.ended (s.forest.idOf n)) hn hf rfl (fun _ => rfl) (fun _ => rfl) ha rfl fun _ h => h.ended hst

end Tells

theorem Effect.tells {t : Thread} {s s' : Session} {ms : List Mark} (he : Effect t s ms s') :
    Tells s (ms.flatMap Mark.births) s' := by
  cases he with
  | created id d hid => exact .created t id d hid
  | begun n hn _ hst _ =>
    have hnest := Forest.get_nest_same (p := Node.life) (fun _ _ => rfl) s.forest (s.active? t) n
    refine Tells.of_modify (.start (s.forest.idOf n)) hn rfl (Forest.size_nest ..) hnest (fun _ => rfl) rfl rfl
      fun calls h => ?_
    -- Nesting changes the children of the tracer below, of which the agent hears nothing.
    have hstart : (((s.forest.nest (s.active? t) n).get n).enter .started s.clock).life =
        { (s.forest.get n).life with state := .started } := by
      rw [← hnest]
      rfl
    rw [hstart]
    exact h.started hst
  | unwound n rest hn _ hst _ _ => exact .of_ended hn (by simp [hst]) rfl rfl
  | completed n hn _ hst _ =>
    obtain ⟨hf, -, -, ha, -⟩ := Session.completePath_same (s.unwound t n []) n
    exact .of_ended hn (by simp [hst]) ha hf
  | finished n hn _ hst => exact .of_ended hn (by simp [hst]) rfl rfl
  | discarded n hn _ hst => exact .of_ended hn (by simp [hst]) rfl rfl
  | updated n u d hn _ _ hst hd =>
    refine Tells.of_modify (.update (s.forest.idOf n) u) hn rfl rfl (fun _ => rfl) (fun _ => rfl) rfl rfl
      fun calls h => ?_
    have hlife : ({ s.forest.get n with details := d } : Node).life = (s.forest.get n).life := by
      simp only [Node.life, Node.kind, Update.kind_of_apply hd]
    rw [hlife]
    have hfield := Update.field_mem_of_apply hd
    rcases hst with hst | ⟨hst, hentry⟩
    · exact h.setUp hst hfield
    · exact h.worked hst ⟨hfield, hentry⟩ rfl
  | failed n className message hn _ _ hst he =>
    refine Tells.of_modify (.error (s.forest.idOf n) className message) hn rfl rfl (fun _ => rfl) (fun _ => rfl) rfl
      rfl fun calls h => ?_
    exact h.failed className message hst (by simp [Node.life, he])
  | tagged n tag hn _ hk hst =>
    exact Tells.of_modify (.setIncomingTag (s.forest.idOf n) tag) hn rfl rfl (fun _ => rfl) (fun _ => rfl) rfl rfl
      fun calls h => h.setUp hst hk
  | tagRead n form hn _ hk hst =>
    exact .call n (.getOutgoingTag (s.forest.idOf n) form) hn (s.agent.getOutgoingTag_eq _ form) rfl rfl
      (fun _ _ => rfl) rfl fun calls h => h.worked hst hk rfl
  | linked consumer producer _ _ _ _ =>
    refine .nothing rfl (by simp [Forest.resolve]) fun m => ?_
    show ((s.forest.resolve consumer producer).get m).life = _
    unfold Forest.resolve
    rw [Forest.get_modify_same (p := Node.life), Forest.get_modify_same (p := Node.life)]
    · exact fun _ => rfl
    · exact fun _ => rfl
  | tuned a h => exact .nothing h rfl fun _ => rfl
  | released n _ => exact .of_quiet rfl (fun _ => rfl) rfl
  | attributed n key value _ _ => exact .of_quiet rfl (fun _ => rfl) rfl
  | warned message => exact .nothing rfl rfl fun _ => rfl
  | refused n e => exact .nothing rfl rfl fun _ => rfl
  | logged e => exact .nothing rfl rfl fun _ => rfl
  | counted l u => exact .nothing rfl rfl fun _ => rfl
  | leaked n _ _ _ => exact .nothing rfl rfl fun _ => rfl
  | emptied => exact .nothing rfl rfl fun _ => rfl

/-! ## The invariant -/

/-- A recorder that heard of the tracers of a session, and of nothing else. -/
structure Recorder.Follows (r : Recorder) (f : Forest) : Prop where
  replay : r.IsReplay
  heard : ∀ n < f.size, Heard (f.get n).life (r.calls.filter (·.id = f.idOf n))
  silent : ∀ id, id ∉ f.ids → r.calls.filter (·.id = id) = []

/-- The ids of a session are its own, and its recorder, if it has one, follows it. -/
structure Session.InStep (s : Session) : Prop where
  distinct : ∀ m n, m < s.forest.size → n < s.forest.size → s.forest.idOf m = s.forest.idOf n → m = n
  follows : ∀ r, s.agent.recorder? = some r → r.Follows s.forest

namespace Session.InStep

variable {s s' : Session}

theorem nothing (h : s.InStep) (ha : s'.agent.record = s.agent.record) (hs : s'.forest.size = s.forest.size)
    (hl : ∀ m, (s'.forest.get m).life = (s.forest.get m).life) : s'.InStep := by
  have hid : ∀ m, s'.forest.idOf m = s.forest.idOf m := fun m => congrArg Life.id (hl m)
  refine ⟨fun m n hm hn e => ?_, fun r' hr' => ?_⟩
  · rw [hs] at hm hn
    rw [hid, hid] at e
    exact h.distinct m n hm hn e
  · obtain ⟨r, hr, hrec⟩ : ∃ r, s.agent.recorder? = some r ∧ r.record = r'.record := by
      unfold Agent.record at ha
      rw [hr'] at ha
      exact Option.map_eq_some_iff.1 ha.symm
    obtain ⟨hreplay, hheard, hsilent⟩ := h.follows r hr
    have hcalls : r'.calls = r.calls := congrArg Prod.fst hrec.symm
    refine ⟨?_, fun n hn => ?_, fun id hid' => ?_⟩
    · unfold Recorder.IsReplay
      rw [hcalls, ← hrec]
      exact hreplay
    · rw [hcalls, hl, hid]
      exact hheard n (hs ▸ hn)
    · rw [Forest.ids_congr hs hid] at hid'
      rw [hcalls]
      exact hsilent id hid'

theorem call (h : s.InStep) {n : NodeRef} {c : AgentCall} (hn : n < s.forest.size) (ha : s'.agent = s.agent.hear c)
    (hcid : c.id = s.forest.idOf n) (hs : s'.forest.size = s.forest.size)
    (hother : ∀ m, m ≠ n → (s'.forest.get m).life = (s.forest.get m).life)
    (hself : s'.forest.idOf n = s.forest.idOf n)
    (hheard : ∀ calls, Heard (s.forest.get n).life calls → Heard (s'.forest.get n).life (calls ++ [c])) :
    s'.InStep := by
  have hid : ∀ m, s'.forest.idOf m = s.forest.idOf m := fun m => by
    by_cases e : m = n
    · rw [e, hself]
    · exact congrArg Life.id (hother m e)
  refine ⟨fun m k hm hk e => ?_, fun r' hr' => ?_⟩
  · rw [hs] at hm hk
    rw [hid, hid] at e
    exact h.distinct m k hm hk e
  · rw [ha, Agent.recorder?_hear] at hr'
    obtain ⟨r, hr, rfl⟩ := Option.map_eq_some_iff.1 hr'
    obtain ⟨hreplay, hh, hsilent⟩ := h.follows r hr
    refine ⟨hreplay.hear c, fun m hm => ?_, fun id hid' => ?_⟩
    · rw [hs] at hm
      rw [Recorder.calls_hear, List.filter_append, hid]
      by_cases e : m = n
      · subst e
        rw [List.filter_cons_of_pos (by simpa using hcid)]
        exact hheard _ (hh m hm)
      · -- The call is about another tracer.
        have hne : ¬ c.id = s.forest.idOf m := fun e' => e (h.distinct m n hm hn (e'.symm.trans hcid))
        rw [List.filter_cons_of_neg (by simpa using hne), hother m e]
        simpa using hh m hm
    · rw [Forest.ids_congr hs hid] at hid'
      have hne : ¬ c.id = id := fun e => hid' (e ▸ hcid ▸ Forest.idOf_mem_ids hn)
      rw [Recorder.calls_hear, List.filter_append, hsilent id hid', List.filter_cons_of_neg (by simpa using hne)]
      rfl

theorem created (h : s.InStep) (t : Thread) {id : TracerId} (details : Details) (hid : id ∉ s.forest.ids) :
    (s.create t id details).2.InStep := by
  have hsize : (s.create t id details).2.forest.size = s.forest.size + 1 := Forest.size_add ..
  have hids : (s.create t id details).2.forest.ids = s.forest.ids ++ [id] := Forest.ids_add ..
  have hold : ∀ m, m < s.forest.size → (s.create t id details).2.forest.get m = s.forest.get m := fun m hm => by
    rw [get_create, if_neg (Nat.ne_of_lt hm)]
  have hnew : (s.create t id details).2.forest.idOf s.forest.size = id := by
    unfold Forest.idOf
    rw [get_created]
  have hidOf : ∀ m, m < s.forest.size → (s.create t id details).2.forest.idOf m = s.forest.idOf m := fun m hm =>
    congrArg Node.id (hold m hm)
  have hfresh : ∀ m, m < s.forest.size → s.forest.idOf m ≠ id := fun m hm e => hid (e ▸ Forest.idOf_mem_ids hm)
  refine ⟨fun m n hm hn e => ?_, fun r' hr' => ?_⟩
  · rw [hsize] at hm hn
    rcases Nat.lt_succ_iff_lt_or_eq.1 hm with hm | rfl <;> rcases Nat.lt_succ_iff_lt_or_eq.1 hn with hn | rfl
    · rw [hidOf m hm, hidOf n hn] at e
      exact h.distinct m n hm hn e
    · rw [hidOf m hm, hnew] at e
      exact absurd e (hfresh m hm)
    · rw [hidOf n hn, hnew] at e
      exact absurd e.symm (hfresh n hn)
    · rfl
  · have ha : (s.create t id details).2.agent = s.agent.hear (.create id details) := rfl
    rw [ha, Agent.recorder?_hear] at hr'
    obtain ⟨r, hr, rfl⟩ := Option.map_eq_some_iff.1 hr'
    obtain ⟨hreplay, hh, hsilent⟩ := h.follows r hr
    refine ⟨hreplay.hear _, fun m hm => ?_, fun id' hid' => ?_⟩
    · rw [hsize] at hm
      rw [Recorder.calls_hear, List.filter_append]
      rcases Nat.lt_succ_iff_lt_or_eq.1 hm with hm | rfl
      · rw [hidOf m hm, hold m hm, List.filter_cons_of_neg (by simp [AgentCall.id, (hfresh m hm).symm])]
        simpa using hh m hm
      · rw [hnew, hsilent id hid, List.filter_cons_of_pos (by simp [AgentCall.id]), get_created]
        exact .created id details
    · rw [hids, List.mem_append, not_or] at hid'
      have hne : ¬ id = id' := fun e => hid'.2 (by simp [e])
      rw [Recorder.calls_hear, List.filter_append, hsilent id' hid'.1,
        List.filter_cons_of_neg (by simp [AgentCall.id, hne])]
      rfl

theorem heard (h : s.InStep) (hf : s.agent.isFound = true) {n : NodeRef} (hn : n < s.forest.size) :
    Heard (s.forest.get n).life (s.agent.calls.filter (·.id = s.forest.idOf n)) := by
  obtain ⟨r, hr⟩ := Agent.recorder?_of_isFound hf
  unfold Agent.calls
  rw [hr]
  exact (h.follows r hr).heard n hn

theorem silent (h : s.InStep) {id : TracerId} (hid : id ∉ s.forest.ids) :
    s.agent.calls.filter (·.id = id) = [] := by
  unfold Agent.calls
  cases hr : s.agent.recorder? with
  | none => rfl
  | some r => exact (h.follows r hr).silent id hid

end Session.InStep

theorem Tells.inStep {s s' : Session} {ids : List TracerId} (ht : Tells s ids s') (h : s.InStep) : s'.InStep := by
  cases ht with
  | nothing ha hs hl => exact h.nothing ha hs hl
  | call n c hn ha hid hs hother hself hheard => exact h.call hn ha hid hs hother hself hheard
  | created t id d hid => exact h.created t d hid

theorem Tells.isFound_eq {s s' : Session} {ids : List TracerId} (ht : Tells s ids s') :
    s'.agent.isFound = s.agent.isFound := by
  cases ht with
  | nothing ha _ _ => rw [Agent.isFound_eq, ha, ← Agent.isFound_eq]
  | call n c _ ha _ _ _ _ _ => rw [ha, Agent.isFound_hear]
  | created t id d _ => exact s.agent.isFound_hear (.create id d)

theorem Tells.ids_eq {s s' : Session} {ids : List TracerId} (ht : Tells s ids s') :
    s'.forest.ids = s.forest.ids ++ ids := by
  cases ht with
  | nothing _ hs hl =>
    rw [List.append_nil]
    exact Forest.ids_congr hs fun m => congrArg Life.id (hl m)
  | call n c _ _ _ hs hother hself _ =>
    rw [List.append_nil]
    refine Forest.ids_congr hs fun m => ?_
    by_cases e : m = n
    · rw [e, hself]
    · exact congrArg Life.id (hother m e)
  | created t id d _ => exact Forest.ids_add ..

theorem Session.IsNew.inStep {s : Session} (h : s.IsNew) : s.InStep := by
  have hsize : s.forest.size = 0 := by
    rw [h.forest]
    rfl
  refine ⟨fun m _ hm => by omega, fun r hr => ?_⟩
  obtain ⟨hc, ht, hv⟩ := h.agent r hr
  refine ⟨?_, fun n hn => by omega, fun _ _ => by simp [hc]⟩
  unfold Recorder.IsReplay
  rw [hc]
  simp [Recorder.record, Recorder.hearAll, hc, ht, hv]

theorem Run.inStep {s₀ s : Session} {log : List Step} (h : Run s₀ s log) (h0 : s₀.IsNew) : s.InStep :=
  h.inv (fun _ _ _ _ he hs => he.tells.inStep hs) h0.inStep

/-! ## Verdicts -/

namespace Recorder

theorem Follows.heard_or_silent {r : Recorder} {f : Forest} (h : r.Follows f) (id : TracerId) :
    r.calls.filter (·.id = id) = [] ∨ ∃ l, Heard l (r.calls.filter (·.id = id)) := by
  by_cases hid : id ∈ f.ids
  · obtain ⟨n, hn, rfl⟩ := Forest.mem_ids hid
    exact .inr ⟨_, h.heard n hn⟩
  · exact .inl (h.silent id hid)

theorem Follows.verdict {r : Recorder} {f : Forest} (h : r.Follows f) :
    r.violations = [] ∧ ∀ n < f.size, r.tracerState (f.idOf n) = some (f.get n).state := by
  obtain ⟨hv, ht⟩ := hearAll_of_heard h.heard_or_silent
  have hrec := h.replay
  unfold IsReplay record at hrec
  simp only [Prod.mk.injEq] at hrec
  refine ⟨hrec.2.2.trans hv, fun n hn => ?_⟩
  unfold tracerState
  rw [hrec.2.1]
  exact ht _ _ (h.heard n hn)

end Recorder

/-! ## Applications -/

theorem Step.mem_births {x : Step} {id : TracerId} (h : id ∈ x.marks.flatMap Mark.births) : id ∈ x.command.newId? := by
  obtain ⟨s, t, c⟩ := x
  unfold marks at h
  cases c with
  | create id' d =>
    obtain rfl : id = id' := by simpa [Mark.births] using h
    rfl
  | trace id' op o =>
    dsimp only at h
    split at h
    · obtain rfl : id = id' := by simpa [Mark.births] using h
      rfl
    · cases h
  | start n =>
    dsimp only at h
    split at h <;> simp_all [Mark.births]
  | endTracer n => simp [List.flatMap_map, Mark.births] at h
  | leave n outcome => simp [List.flatMap_map, Mark.births] at h
  | _ => cases h

theorem Effects.ids_eq {t : Thread} {s s' : Session} {ms : List Mark} (h : Effects t s ms s') :
    s'.forest.ids = s.forest.ids ++ ms.flatMap Mark.births := by
  induction h with
  | nil => simp
  | cons he _ ih => rw [ih, he.tells.ids_eq, List.flatMap_append, List.append_assoc]

theorem Effects.size_eq {t : Thread} {s s' : Session} {ms : List Mark} (h : Effects t s ms s')
    (hms : ms.flatMap Mark.births = []) : s'.forest.size = s.forest.size := by
  rw [← Forest.length_ids, ← Forest.length_ids, h.ids_eq, hms, List.append_nil]

/-- A command issues no id but its own. -/
theorem Session.mem_ids_perform {s : Session} {t : Thread} {c : Command} (ha : s.Admits c) {id : TracerId}
    (h : id ∈ (s.perform t c).2.forest.ids) : id ∈ s.forest.ids ∨ id ∈ c.newId? := by
  have he := (Step.effects (x := ⟨s, t, c⟩) ha).ids_eq
  have h' : id ∈ s.forest.ids ++ (Step.mk s t c).marks.flatMap Mark.births := he ▸ h
  exact (List.mem_append.1 h').imp_right Step.mem_births

namespace Application

/-- No id belongs to two sessions. -/
def Apart (app : Application) : Prop :=
  ∀ r < app.sessions.size, ∀ r' < app.sessions.size, ∀ id ∈ (app.get r).forest.ids,
    id ∈ (app.get r').forest.ids → r = r'

theorem Apart.opens {app app' : Application} (h : app.Apart) (ho : app.Opens app') : app'.Apart := by
  have hnew : ∀ {s : Session} {id : TracerId}, s.IsNew → id ∉ s.forest.ids := fun hs hid => by
    rw [hs.forest] at hid
    cases hid
  intro r hr r' hr' id hid hid'
  rcases ho.get_cases hr with ⟨hr, e⟩ | ⟨-, hs⟩
  · rcases ho.get_cases hr' with ⟨hr', e'⟩ | ⟨-, hs⟩
    · rw [e] at hid
      rw [e'] at hid'
      exact h r hr r' hr' id hid hid'
    · exact absurd hid' (hnew hs)
  · exact absurd hid (hnew hs)

theorem Apart.command {app : Application} (h : app.Apart) (r : SessionRef) (t : Thread) (c : Command)
    (hc : (app.get r).Admits c) (hf : ∀ id ∈ c.newId?, app.IsFresh id) : (app.onSession r (·.perform t c)).2.Apart := by
  have hsize : (app.onSession r (·.perform t c)).2.sessions.size = app.sessions.size := size_set ..
  -- An id of the session after the command was there before, or is new everywhere.
  have hids : ∀ k < app.sessions.size, ∀ id ∈ ((app.onSession r (·.perform t c)).2.get k).forest.ids,
      id ∈ (app.get k).forest.ids ∨ (k = r ∧ app.IsFresh id) := fun k hk id hid => by
    rw [get_onSession _ _ _ _ hk] at hid
    split at hid
    · rename_i e
      subst e
      exact (Session.mem_ids_perform hc hid).imp_right fun h => ⟨rfl, hf id h⟩
    · exact .inl hid
  intro k hk k' hk' id hid hid'
  rw [hsize] at hk hk'
  rcases hids k hk id hid with hid | ⟨rfl, hfresh⟩ <;> rcases hids k' hk' id hid' with hid' | ⟨e, hfresh'⟩
  · exact h k hk k' hk' id hid hid'
  · exact absurd hid (hfresh' k hk)
  · exact absurd hid' (hfresh k' hk')
  · exact e.symm

theorem Reachable.apart {app : Application} (h : app.Reachable) : app.Apart := by
  refine h.inv (fun r hr r' hr' id _ _ => ?_) Apart.opens fun r t c hp => hp.command r t c
  have hone : ∀ r, r < ({} : Application).sessions.size → r = 0 := fun r hr => by simpa using hr
  rw [hone r hr, hone r' hr']

/-- The calls about a tracer to the agents of all sessions. -/
def callsOf (app : Application) (id : TracerId) : List AgentCall :=
  (List.range app.sessions.size).flatMap fun r => (app.get r).agent.calls.filter (·.id = id)

theorem Reachable.inStep {app : Application} (h : app.Reachable) {r : SessionRef} (hr : r < app.sessions.size) :
    (app.get r).InStep := by
  obtain ⟨s₀, log, h0, hrun⟩ := h.run r hr
  exact hrun.inStep h0

theorem flatMap_range_of_single {α : Type} {g : Nat → List α} {n r : Nat} (hr : r < n)
    (h : ∀ m < n, m ≠ r → g m = []) : (List.range n).flatMap g = g r := by
  induction n with
  | zero => omega
  | succ n ih =>
    rw [List.range_succ, List.flatMap_append, List.flatMap_singleton]
    by_cases e : r = n
    · subst e
      have hnil : (List.range r).flatMap g = [] := by
        rw [List.flatMap_eq_nil_iff]
        intro m hm
        rw [List.mem_range] at hm
        exact h m (by omega) (by omega)
      rw [hnil, List.nil_append]
    · rw [ih (by omega) fun m hm => h m (by omega), h n (by omega) (Ne.symm e), List.append_nil]

/-- About a tracer, only the agent of its session hears anything. -/
theorem Reachable.callsOf_eq {app : Application} (h : app.Reachable) {r : SessionRef} (hr : r < app.sessions.size)
    {id : TracerId} (hid : id ∈ (app.get r).forest.ids) :
    app.callsOf id = (app.get r).agent.calls.filter (·.id = id) := by
  refine flatMap_range_of_single hr fun m hm hne => (h.inStep hm).silent fun hid' => ?_
  exact hne (h.apart m hm r hr id hid' hid)

theorem Reachable.callsOf_eq_nil {app : Application} (h : app.Reachable) {id : TracerId} (hid : app.IsFresh id) :
    app.callsOf id = [] := by
  unfold callsOf
  rw [List.flatMap_eq_nil_iff]
  intro r hr
  rw [List.mem_range] at hr
  exact (h.inStep hr).silent (hid r hr)

theorem Reachable.heard_callsOf {app : Application} (h : app.Reachable) {r : SessionRef} (hr : r < app.sessions.size)
    {n : NodeRef} (hn : n < (app.get r).forest.size) : if (app.get r).agent.isFound then
      Heard ((app.get r).forest.get n).life (app.callsOf ((app.get r).forest.idOf n))
    else app.callsOf ((app.get r).forest.idOf n) = [] := by
  rw [h.callsOf_eq hr (Forest.idOf_mem_ids hn)]
  split
  · rename_i hf
    exact (h.inStep hr).heard hf hn
  · rename_i hf
    rw [Agent.calls_eq_nil (by simpa using hf)]
    rfl

/-- What the agents have heard, and what recorders make of it. -/
structure KeepsProtocol (app : Application) : Prop where
  /-- The calls about a tracer are the beginning of a conversation for its kind. -/
  spoken : ∀ r < app.sessions.size, ∀ n < (app.get r).forest.size, ∃ whole,
    Conversation ((app.get r).forest.idOf n) ((app.get r).forest.get n).kind whole ∧
      app.callsOf ((app.get r).forest.idOf n) <+: whole
  /-- There are no others. -/
  silent : ∀ id, app.IsFresh id → app.callsOf id = []
  flawless : ∀ r < app.sessions.size, ∀ rec, (app.get r).agent.recorder? = some rec → rec.violations = [] ∧
    ∀ n < (app.get r).forest.size,
      rec.tracerState ((app.get r).forest.idOf n) = some ((app.get r).forest.get n).state
  /-- A recorder that hears the calls of all sessions, one after the other in whichever order, is as
  content. -/
  shared : ∀ calls : List AgentCall, (∀ id, calls.filter (·.id = id) = app.callsOf id) →
    (({} : Recorder).hearAll calls).violations = [] ∧ ∀ r < app.sessions.size, (app.get r).agent.isFound = true →
      ∀ n < (app.get r).forest.size, (({} : Recorder).hearAll calls).tracerState ((app.get r).forest.idOf n) =
        some ((app.get r).forest.get n).state

/-- Whatever was asked of the sessions of an application, in which order and on whichever threads,
the agents hear of every tracer as the protocol says. -/
theorem Reachable.keepsProtocol {app : Application} (h : app.Reachable) : app.KeepsProtocol where
  spoken r hr n hn := by
    have hheard := h.heard_callsOf hr hn
    split at hheard
    · exact hheard.isPrefix
    · rw [hheard]
      exact ⟨_, .unstarted rfl (List.forall_mem_nil _), List.nil_prefix⟩
  silent id hid := h.callsOf_eq_nil hid
  flawless r hr rec hrec := ((h.inStep hr).follows rec hrec).verdict
  shared calls hcalls := by
    have hall : ∀ id, calls.filter (·.id = id) = [] ∨ ∃ l, Heard l (calls.filter (·.id = id)) := fun id => by
      rw [hcalls]
      by_cases hid : app.IsFresh id
      · exact .inl (h.callsOf_eq_nil hid)
      · obtain ⟨r, hr, hid⟩ : ∃ r, r < app.sessions.size ∧ id ∈ (app.get r).forest.ids := by
          simpa [IsFresh] using hid
        obtain ⟨n, hn, rfl⟩ := Forest.mem_ids hid
        have hheard := h.heard_callsOf hr hn
        split at hheard
        · exact .inr ⟨_, hheard⟩
        · exact .inl hheard
    obtain ⟨hv, ht⟩ := Recorder.hearAll_of_heard hall
    refine ⟨hv, fun r hr hf n hn => ht _ ((app.get r).forest.get n).life ?_⟩
    have hheard := h.heard_callsOf hr hn
    rw [if_pos hf] at hheard
    rw [hcalls]
    exact hheard

/-- A call that is served calls a service itself, which fails; another tracer is only created. -/
def callProgram : List (SessionRef × Thread × Command) :=
  let incoming := Details.incomingRemoteCall ⟨"method", "service", "endpoint", none, none⟩
  let outgoing := Details.outgoingWebRequest ⟨"url", "GET", [], [], none⟩
  [(1, ⟨"a"⟩, .create (.ofNat 1) incoming), (1, ⟨"a"⟩, .update 0 (.protocolName (some "http"))),
    (1, ⟨"a"⟩, .setIncomingTag 0 (.bytes [])), (1, ⟨"a"⟩, .start 0), (1, ⟨"a"⟩, .create (.ofNat 2) outgoing),
    (1, ⟨"a"⟩, .start 1), (1, ⟨"a"⟩, .outgoingTag 1 .bytes), (1, ⟨"a"⟩, .update 1 (.statusCode 500)),
    (1, ⟨"a"⟩, .markFailed 1 "class" "message"), (1, ⟨"a"⟩, .endTracer 0), (1, ⟨"a"⟩, .endTracer 1),
    (1, ⟨"b"⟩, .create (.ofNat 3) outgoing), (1, ⟨"a"⟩, .start 2)]

theorem keepsProtocol_callProgram :
    let app := (({} : Application).newSession "session" (.recording {}) {}).2.played callProgram
    app.KeepsProtocol ∧ app.callsOf ⟨1, by decide⟩ = [
      .create ⟨1, by decide⟩ (.incomingRemoteCall ⟨"method", "service", "endpoint", none, none⟩),
      .update ⟨1, by decide⟩ (.protocolName (some "http")), .setIncomingTag ⟨1, by decide⟩ (.bytes []),
      .start ⟨1, by decide⟩] := by
  have hnew : (Agent.recording {}).IsNew := by
    rintro r ⟨⟩
    exact ⟨rfl, rfl, rfl⟩
  have hrun := (Reachable.init.newSession "session" (.recording {}) {} hnew).played callProgram (by decide)
  exact ⟨Reachable.keepsProtocol hrun, by decide +kernel⟩

end Application

end CallPath
