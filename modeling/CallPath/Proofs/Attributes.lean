import CallPath.Proofs.Actions
import CallPath.Proofs.Leaks
/-!
# Custom attributes

An attribute is added without naming a tracer: it is for the innermost one that runs on the calling
thread, as far as the session knows. An `Addition` is one such call, by itself or in a batch, which stops
at the first key that is refused.

After any run, the attributes of a node are the pairs of the accepted additions that were for it, in order;
what is added where nothing runs changes no node and is reported once, to the callback that is installed
(`Application.attributesLand`). That holds of every session of a program, whatever the others do meanwhile
on the same threads.
-/

namespace CallPath

/-- The addition of one attribute, with the session it met. -/
structure Addition where
  before : Session
  thread : Thread
  key : String
  value : AttributeValue

/-- The diagnostics that were reported. -/
def Session.diagnostics (s : Session) : List String :=
  s.events.filterMap fun
    | .diagnostic message => some message
    | _ => none

/-- The message for an attribute that is for nobody. -/
def Session.lostMessage (key : String) : String :=
  "No active tracer on this thread, dropping custom request attribute " ++ Text.quoted key

/-- A message was reported between two states of a slot. -/
structure CallbackSlot.Delivers (c : CallbackSlot) (message : String) (c' : CallbackSlot) : Prop where
  /-- The installed callback received it, after all that it had received before, and nothing else. -/
  installed : ∀ texts, c.current = some texts → c'.current = some (texts ++ [message])
  absent : c.current = none → c'.current = none
  /-- A callback that was replaced receives nothing more. -/
  replaced : c'.replaced = c.replaced

namespace Addition

/-- What it gave back. -/
def result (a : Addition) : Except UsageError Unit :=
  (a.before.addAttribute a.thread a.key a.value).1

/-- The session after it. -/
def after (a : Addition) : Session :=
  (a.before.addAttribute a.thread a.key a.value).2

/-- The tracer it is for: the innermost one that runs on the thread. -/
def target? (a : Addition) : Option NodeRef :=
  a.before.active? a.thread

def pair (a : Addition) : String × AttributeValue :=
  (a.key, a.value)

/-- It was accepted, on the thread `t`, and is for the node. -/
def landsOn (a : Addition) (t : Thread) (n : NodeRef) : Bool :=
  a.result.isOk && a.thread = t && a.target? = some n

/-- What one addition does. -/
structure Lawful (a : Addition) : Prop where
  /-- A blank key is refused, and nothing happens. -/
  refused : Text.allBlank a.key = true → a.result = .error (.blankArgument "key" a.key) ∧ a.after = a.before
  /-- The innermost tracer gets the attribute, and nothing else happens. -/
  landed : Text.allBlank a.key = false → ∀ n, a.target? = some n → a.result = .ok () ∧
    n < a.before.forest.size ∧ (a.before.forest.get n).owner = a.thread ∧
    a.after.forest.get n =
      { a.before.forest.get n with attributes := (a.before.forest.get n).attributes ++ [a.pair] } ∧
    (∀ m, m ≠ n → a.after.forest.get m = a.before.forest.get m) ∧
    a.after = { a.before with forest := a.after.forest }
  /-- Where nothing runs, that is reported once, and nothing else happens. -/
  lost : Text.allBlank a.key = false → a.target? = none → a.result = .ok () ∧
    a.after.diagnostics = a.before.diagnostics ++ [Session.lostMessage a.key] ∧
    a.before.agent.callback.Delivers (Session.lostMessage a.key) a.after.agent.callback ∧
    a.after = { a.before with
      events := a.before.events ++ [.diagnostic (Session.lostMessage a.key)]
      agent := { a.before.agent with callback := a.after.agent.callback } }

end Addition

namespace Session

/-- The additions of a batch, up to the first that is refused. -/
def additions (s : Session) (t : Thread) : List (String × AttributeValue) → List Addition
  | [] => []
  | (key, value) :: rest =>
    ⟨s, t, key, value⟩ :: if (s.addAttribute t key value).1.isOk then (s.addAttribute t key value).2.additions t rest
      else []

end Session

/-- The additions that a command consists of. -/
def Step.additions (x : Step) : List Addition :=
  match x.command with
  | .addAttribute key value => [⟨x.before, x.thread, key, value⟩]
  | .addAttributes keys values count => x.before.additions x.thread ((keys.zip values).take count)
  | _ => []

/-- Additions on a thread, each where the one before has left off; after a refusal there is no other. -/
inductive Additions (t : Thread) : Session → List Addition → Session → Prop
  | nil (s : Session) : Additions t s [] s
  | refused (a : Addition) : a.thread = t → a.result.isOk = false → Additions t a.before [a] a.after
  | cons {a : Addition} {as : List Addition} {s : Session} : a.thread = t → a.result = .ok () →
      Additions t a.after as s → Additions t a.before (a :: as) s

/-! ## One addition -/

variable {s s' : Session} {t : Thread} {key : String} {value : AttributeValue}

theorem Session.addAttribute_blank (h : Text.allBlank key = true) :
    s.addAttribute t key value = (.error (.blankArgument "key" key), s) := by
  simp [addAttribute, requireNonBlank, h]

theorem Session.addAttribute_active (h : Text.allBlank key = false) {n : NodeRef} (ha : s.active? t = some n) :
    s.addAttribute t key value =
      (.ok (), s.modifyNode n fun m => { m with attributes := m.attributes ++ [(key, value)] }) := by
  simp [addAttribute, requireNonBlank, h, ha]

theorem Session.addAttribute_idle (h : Text.allBlank key = false) (ha : s.active? t = none) :
    s.addAttribute t key value = (.ok (), s.warn (lostMessage key)) := by
  unfold lostMessage
  simp [addAttribute, requireNonBlank, h, ha]

theorem CallbackSlot.delivers_emit (c : CallbackSlot) (message : String) : c.Delivers message (c.emit message) where
  installed texts h := by simp [emit, h]
  absent h := by simp [emit, h]
  replaced := rfl

theorem Session.Sound.lt_of_active (h : s.Sound) {n : NodeRef} (ha : s.active? t = some n) : n < s.forest.size :=
  Forest.lt_size_of_state (by simp [h.started_of_active ha])

namespace Addition

variable {a : Addition}

theorem of_blank (h : Text.allBlank a.key = true) :
    a.result = .error (.blankArgument "key" a.key) ∧ a.after = a.before := by
  have heq : a.before.addAttribute a.thread a.key a.value = _ := Session.addAttribute_blank h
  exact ⟨congrArg Prod.fst heq, congrArg Prod.snd heq⟩

theorem of_active (h : Text.allBlank a.key = false) {n : NodeRef} (ha : a.target? = some n) :
    a.result = .ok () ∧
      a.after = a.before.modifyNode n fun m => { m with attributes := m.attributes ++ [a.pair] } := by
  have heq : a.before.addAttribute a.thread a.key a.value = _ := Session.addAttribute_active h ha
  exact ⟨congrArg Prod.fst heq, congrArg Prod.snd heq⟩

theorem of_idle (h : Text.allBlank a.key = false) (ha : a.target? = none) :
    a.result = .ok () ∧ a.after = a.before.warn (Session.lostMessage a.key) := by
  have heq : a.before.addAttribute a.thread a.key a.value = _ := Session.addAttribute_idle h ha
  exact ⟨congrArg Prod.fst heq, congrArg Prod.snd heq⟩

theorem lawful (hs : a.before.Sound) : a.Lawful := by
  refine ⟨of_blank, fun hb n ha => ?_, fun hb ha => ?_⟩
  · obtain ⟨hresult, hafter⟩ := of_active hb ha
    have hn := hs.lt_of_active ha
    rw [hafter]
    refine ⟨hresult, hn, hs.owner_of_active ha, ?_, fun m hm => Forest.get_modify_ne (Ne.symm hm), rfl⟩
    exact (Forest.get_modify _ _ _ _ hn).trans (if_pos rfl)
  · obtain ⟨hresult, hafter⟩ := of_idle hb ha
    rw [hafter]
    refine ⟨hresult, ?_, a.before.agent.callback.delivers_emit _, rfl⟩
    simp [Session.diagnostics, Session.warn, Session.log]

/-- An addition is asked for like any command. -/
theorem sound (hs : a.before.Sound) : a.after.Sound :=
  Step.sound (x := ⟨a.before, a.thread, .addAttribute a.key a.value⟩) ⟨nofun, nofun⟩ hs

theorem after_same : a.after.forest.size = a.before.forest.size ∧
    ∀ n, (a.after.forest.get n).owner = (a.before.forest.get n).owner := by
  cases hb : Text.allBlank a.key with
  | true =>
    rw [(of_blank hb).2]
    exact ⟨rfl, fun _ => rfl⟩
  | false =>
    cases ha : a.target? with
    | some n =>
      rw [(of_active hb ha).2]
      exact ⟨Forest.size_modify .., fun m => Forest.get_modify_same (p := Node.owner)
        (g := fun m => { m with attributes := m.attributes ++ [a.pair] }) (fun _ => rfl) a.before.forest n m⟩
    | none =>
      rw [(of_idle hb ha).2]
      exact ⟨rfl, fun _ => rfl⟩

/-- A node gets the attribute if the addition is for it, and stays as it is if not. -/
theorem attributes_after (hs : a.before.Sound) {n : NodeRef} {o : Thread}
    (ho : n < a.before.forest.size → (a.before.forest.get n).owner = o) :
    (a.after.forest.get n).attributes =
      (a.before.forest.get n).attributes ++ if a.landsOn o n then [a.pair] else [] := by
  cases hb : Text.allBlank a.key with
  | true =>
    obtain ⟨hresult, hafter⟩ := of_blank hb
    simp [landsOn, hresult, hafter, Except.isOk, Except.toBool]
  | false =>
    cases ha : a.target? with
    | some m =>
      obtain ⟨hresult, hafter⟩ := of_active hb ha
      have hm := hs.lt_of_active ha
      have howner := hs.owner_of_active ha
      rw [hafter]
      show ((a.before.forest.modify m _).get n).attributes = _
      by_cases he : m = n
      · subst he
        rw [Forest.get_modify _ _ _ _ hm]
        simp [landsOn, hresult, ha, howner.symm.trans (ho hm), Except.isOk, Except.toBool]
      · rw [Forest.get_modify_ne he]
        simp [landsOn, ha, he]
    | none =>
      rw [(of_idle hb ha).2]
      simp [landsOn, ha, Session.warn, Session.log]

end Addition

/-! ## The additions of a command -/

theorem Session.additions_chain (pairs : List (String × AttributeValue)) :
    Additions t s (s.additions t pairs) (s.addEach t pairs).2 := by
  induction pairs generalizing s with
  | nil => exact .nil s
  | cons p pairs ih =>
    obtain ⟨key, value⟩ := p
    cases h : s.addAttribute t key value with
    | mk result s' =>
      have hresult : (⟨s, t, key, value⟩ : Addition).result = result := congrArg Prod.fst h
      have hafter : (⟨s, t, key, value⟩ : Addition).after = s' := congrArg Prod.snd h
      subst hafter
      cases result with
      | ok _ =>
        simp only [additions, addEach, h]
        exact .cons rfl hresult ih
      | error e =>
        simp only [additions, addEach, h]
        exact .refused _ rfl (by rw [hresult]; rfl)

/-- The additions of a command that adds attributes lead to the session after it. -/
theorem Step.additions_chain {x : Step} (h : x.command.addsAttributes = true) :
    Additions x.thread x.before x.additions x.after := by
  obtain ⟨s, t, c⟩ := x
  cases c with
  | addAttribute key value =>
    let a : Addition := ⟨s, t, key, value⟩
    cases hresult : a.result with
    | ok _ => exact .cons (a := a) rfl hresult (.nil _)
    | error e => exact .refused a rfl (by rw [hresult]; rfl)
  | addAttributes keys values count => exact Session.additions_chain _
  | _ => cases h

namespace Additions

variable {as : List Addition}

theorem sound_of_mem (h : Additions t s as s') (hs : s.Sound) {a : Addition} (ha : a ∈ as) :
    a.thread = t ∧ a.before.Sound := by
  induction h with
  | nil => cases ha
  | refused b ht _ =>
    obtain rfl := List.mem_singleton.1 ha
    exact ⟨ht, hs⟩
  | cons ht _ _ ih =>
    rcases List.mem_cons.1 ha with rfl | ha
    · exact ⟨ht, hs⟩
    · exact ih (Addition.sound hs) ha

theorem attributes (h : Additions t s as s') (hs : s.Sound) {n : NodeRef} {o : Thread}
    (ho : n < s.forest.size → (s.forest.get n).owner = o) :
    (s'.forest.get n).attributes =
      (s.forest.get n).attributes ++ (as.filter (·.landsOn o n)).map Addition.pair := by
  induction h with
  | nil => simp
  | refused a _ _ =>
    rw [Addition.attributes_after hs ho, List.filter_singleton]
    cases a.landsOn o n <;> rfl
  | @cons a as s' _ _ _ ih =>
    obtain ⟨hsize, howner⟩ := a.after_same
    rw [ih (Addition.sound hs) (by rwa [hsize, howner]), Addition.attributes_after hs ho, List.filter_cons]
    cases a.landsOn o n <;> simp

end Additions

/-! ## The other commands -/

theorem Node.attributes_untouched : Node.Untouched Node.attributes where
  enter _ _ _ := rfl
  nest _ _ := rfl
  fields _ _ _ _ := rfl
  failed _ _ := rfl
  held _ _ := rfl

theorem Session.create_attributes (t : Thread) (id : TracerId) (d : Details) :
    s.Keeps Node.attributes (s.create t id d).2 := by
  intro n
  rw [get_create]
  split
  · rename_i h
    subst h
    rw [Forest.get_of_size_le (Nat.le_refl _)]
    rfl
  · rfl

theorem Session.perform_attributes {c : Command} (hc : c.addsAttributes = false) :
    s.Keeps Node.attributes (s.perform t c).2 := by
  have hp := Node.attributes_untouched
  have hr : ∀ (m : Node) (receipt : TagReceipt), { m with receipt }.attributes = m.attributes := fun _ _ => rfl
  have hpass : s.Keeps Node.attributes { s with forest := (s.forest.resolvePass s.archive).2 } :=
    (Forest.resolvePass_same (fun _ _ => rfl) (fun _ _ => rfl) s.forest s.archive).2
  by_cases hw : c.isWork = true
  · exact perform_keeps_untouched hp s t hw hc
  · cases c with
    | create id d => exact create_attributes t id d
    | trace id op o => exact trace_keeps hp hr (create_attributes t id) op o
    | setIncomingTag n tag => exact setIncomingTag_keeps hr tag
    | applyIncomingTags n tags => exact applyIncomingTags_keeps hr tags
    | resolvePending => exact hpass
    | resolve w => exact hpass.trans (.of_forest (Step.pass_eq (x := ⟨s, t, .resolve w⟩) rfl).1)
    | _ => exact absurd rfl hw

/-! ## Runs -/

namespace Step

variable {x : Step}

theorem additions_eq_nil (hc : x.command.addsAttributes = false) : x.additions = [] := by
  obtain ⟨s, t, c⟩ := x
  cases c with
  | addAttribute | addAttributes => cases hc
  | _ => rfl

/-- A command adds to a node what it adds while the node is the innermost one of the thread. -/
theorem attributes_after (hs : x.before.Sound) {n : NodeRef} {o : Thread}
    (ho : n < x.before.forest.size → (x.before.forest.get n).owner = o) :
    (x.after.forest.get n).attributes =
      (x.before.forest.get n).attributes ++ (x.additions.filter (·.landsOn o n)).map Addition.pair := by
  cases hc : x.command.addsAttributes with
  | true => exact (additions_chain hc).attributes hs ho
  | false =>
    rw [additions_eq_nil hc]
    exact (Session.perform_attributes hc n).trans (List.append_nil _).symm

theorem addition_sound (hs : x.before.Sound) {a : Addition} (ha : a ∈ x.additions) :
    a.thread = x.thread ∧ a.before.Sound := by
  cases hc : x.command.addsAttributes with
  | true => exact (additions_chain hc).sound_of_mem hs ha
  | false =>
    rw [additions_eq_nil hc] at ha
    cases ha

end Step

/-- The additions of a run. -/
def additionsOf (log : List Step) : List Addition :=
  log.flatMap Step.additions

variable {s₀ : Session} {log : List Step}

theorem Run.attributes_eq (h : Run s₀ s log) (h0 : s₀.Sound) (hempty : s₀.forest = {}) (n : NodeRef) (o : Thread)
    (ho : n < s.forest.size → (s.forest.get n).owner = o) :
    (s.forest.get n).attributes = ((additionsOf log).filter (·.landsOn o n)).map Addition.pair := by
  induction h with
  | nil =>
    rw [hempty]
    rfl
  | @step s log t c h hc ih =>
    have howner : n < s.forest.size → (s.forest.get n).owner = o := by
      intro hn
      have hlater := Step.later (x := ⟨s, t, c⟩) hc
      rw [← ho (Nat.lt_of_lt_of_le hn hlater.size)]
      exact (hlater.node n hn).owner.symm
    have hstep := Step.attributes_after (x := ⟨s, t, c⟩) (h.sound_of h0) howner
    rw [ih howner] at hstep
    rw [additionsOf, List.flatMap_append, List.filter_append, List.map_append, List.flatMap_singleton]
    exact hstep

/-! ## Every application -/

theorem Session.sound_opened (name : String) (agent : Agent) (settings : Settings) :
    ({ name, agent, settings } : Session).Sound := by
  have hnull : ({ name, agent := .null, settings } : Session).IsNew :=
    ⟨rfl, rfl, rfl, rfl, Application.agent_isNew_null⟩
  exact hnull.sound.of_same rfl rfl nofun

namespace Application

/-- In the session `r`, what was done led every attribute to its tracer. -/
structure AttributesLand (as : List Action) (r : SessionRef) : Prop where
  /-- The attributes of a node are what was added, in order, while it was the innermost one of its thread. -/
  attributes : ∀ n < ((({} : Application).acted as).get r).forest.size,
    (((({} : Application).acted as).get r).forest.get n).attributes =
      ((additionsOf (({} : Application).steps r as)).filter
        (·.landsOn (((({} : Application).acted as).get r).forest.get n).owner n)).map Addition.pair
  /-- Each addition changed that one node, or none and was reported once, or was refused and changed nothing. -/
  lawful : ∀ a ∈ additionsOf (({} : Application).steps r as), a.Lawful
  /-- A batch is so many single additions, up to one that is refused. -/
  chain : ∀ x ∈ ({} : Application).steps r as, x.command.addsAttributes = true →
    Additions x.thread x.before x.additions x.after
  /-- Whatever else is asked leaves all attributes as they are. -/
  others : ∀ x ∈ ({} : Application).steps r as, x.command.addsAttributes = false →
    ∀ n, (x.after.forest.get n).attributes = (x.before.forest.get n).attributes
  /-- It all is the same where the threads keep the paths of all sessions in one store. -/
  shared : ∀ p : Process, p.view = ({} : Application).acted as → ∀ t c, (p.view.get r).Admits c →
    (p.perform r t c).1 = ((p.view.get r).perform t c).1 ∧
      (p.perform r t c).2.view = p.view.set r ((p.view.get r).perform t c).2

theorem attributesLand {as : List Action} (has : ({} : Application).AllowsAll as) {r : SessionRef}
    (hr : r < (({} : Application).acted as).sessions.size) : AttributesLand as r := by
  obtain ⟨name, agent, settings, hrun⟩ := run_acted has hr
  have h0 := Session.sound_opened name agent settings
  refine ⟨fun n _ => hrun.attributes_eq h0 rfl n _ fun _ => rfl, fun a ha => ?_, fun x _ => Step.additions_chain,
    fun x _ hx => Session.perform_attributes hx, fun p hp t c hc => ?_⟩
  · obtain ⟨x, hx, ha⟩ := List.mem_flatMap.1 ha
    obtain ⟨⟨log, hbefore⟩, -⟩ := hrun.of_mem hx
    exact Addition.lawful (Step.addition_sound (hbefore.sound_of h0) ha).2
  · have htidy : (p.view.get r).paths.IsTidy := by
      rw [hp]
      exact hrun.isTidy_of rfl
    exact Process.perform_view_of_tidy htidy (hp ▸ hr) hc

/-- Attributes are added around tracers of two sessions that nest, fail to start or end, and leak. -/
def scatteredActions : List Action :=
  let a : Thread := ⟨"a"⟩
  let service := Operation.customService "method" "service"
  [.newSession "first" (.recording {}) {}, .newSession "second" (.recording {}) {}, .command 1 a (.setCallback true),
    .command 1 a (.trace (.ofNat 1) service {}), .command 1 a (.start 0), .command 2 a (.trace (.ofNat 2) service {}),
    .command 2 a (.start 0), .command 1 a (.addAttribute "first" (.integer 1)),
    .command 2 a (.addAttribute "second" (.integer 2)), .command 1 a (.trace (.ofNat 3) service {}),
    .command 1 ⟨"b"⟩ (.start 1), .command 1 ⟨"b"⟩ (.addAttribute "lost" (.integer 3)), .command 1 a (.start 1),
    .command 1 a (.addAttributes ["key", " ", "other"] [.string "x", .string "y", .string "z"] 3),
    .command 1 a (.endTracer 0), .command 1 a (.drop 1), .command 1 a (.addAttribute "late" (.float 0)),
    .command 2 a (.endTracer 0), .command 2 a (.addAttribute "later" (.integer 4))]

theorem attributesLand_scatteredActions : let app := ({} : Application).acted scatteredActions
    AttributesLand scatteredActions 1 ∧
      ((app.get 1).forest.get 0).attributes = [("first", .integer 1)] ∧
      ((app.get 1).forest.get 1).attributes = [("key", .string "x"), ("late", .float 0)] ∧
      (app.get 1).diagnostics.length = 2 ∧ (app.get 2).diagnostics.length = 1 ∧
      (app.get 1).agent.callback.received = [(app.get 1).diagnostics] ∧ (app.get 2).agent.callback.received = [] ∧
      "No active tracer on this thread, dropping custom request attribute \"lost\"" ∈ (app.get 1).diagnostics :=
  ⟨attributesLand (by decide +kernel) (by decide +kernel), by decide +kernel⟩

end Application

end CallPath
