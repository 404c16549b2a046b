import CallPath.Proofs.Accounts
import CallPath.Proofs.Attributes
import CallPath.Proofs.Increments
/-!
# Batches

A batch is its members one by one, up to the first that is refused. What a tracer says to an update
depends on the thread, on its own state and kind and on the update, but not on the values of its fields
(`Node.verdict`). So the members before the first refused one can be told beforehand, and they are what the
batch comes to, at the tracer as well as at the agent (`Session.updateAll_refused`).
-/

namespace CallPath

/-! ## Changes of one node -/

namespace Forest

variable {f : Forest} {n : NodeRef} {g k : Node → Node}

theorem modify_congr (h : g (f.get n) = k (f.get n)) : f.modify n g = f.modify n k := by
  apply eq_of_get (by simp)
  intro m
  rw [get_modify_eq, get_modify_eq]
  by_cases hm : n = m
  · rw [← hm, h]
  · simp [hm]

theorem modify_same (h : g (f.get n) = f.get n) : f.modify n g = f := by
  apply eq_of_get (by simp)
  intro m
  rw [get_modify_eq]
  split
  · rename_i hm
    rw [← hm.1, h]
  · rfl

theorem modify_modify (f : Forest) (n : NodeRef) (g g' : Node → Node) :
    (f.modify n g).modify n g' = f.modify n fun m => g' (g m) := by
  apply eq_of_get (by simp)
  intro m
  simp only [get_modify_eq, size_modify]
  split <;> rfl

end Forest

/-! ## Updates in a row -/

/-- Whether a tracer takes an update on a thread. -/
def Node.verdict (m : Node) (t : Thread) (u : Update) : Except UsageError Unit := do
  m.requireThread t
  u.validate
  Session.requireUpdatable m u.field
  if u.field ∈ m.kind.fields then return () else throw (.unsupportedField m.kind u.field)

/-- The details with some fields set, as far as their kind has them. -/
def Details.setting (d : Details) (us : List Update) : Details :=
  us.foldl (fun d u => (u.applied? d).getD d) d

theorem Details.setting_append (d : Details) (us us' : List Update) :
    d.setting (us ++ us') = (d.setting us).setting us' :=
  List.foldl_append

theorem Details.kind_setting (d : Details) (us : List Update) : (d.setting us).kind = d.kind := by
  induction us generalizing d with
  | nil => rfl
  | cons u us ih =>
    have hu : ((u.applied? d).getD d).kind = d.kind := by
      cases hd : u.applied? d with
      | none => rfl
      | some d' => exact Update.kind_of_apply (u := u) (by simp [Update.apply, hd])
    exact (ih _).trans hu

/-- What the fields hold makes no difference. -/
theorem Node.verdict_congr {m m' : Node} (hid : m'.id = m.id) (ho : m'.owner = m.owner) (hk : m'.kind = m.kind)
    (hst : m'.state = m.state) (t : Thread) : m'.verdict t = m.verdict t := by
  have hl : m'.label = m.label := by unfold label; rw [hid, hk]
  funext u
  unfold verdict requireThread Session.requireUpdatable
  rw [ho, hk, hst, hl]

namespace Session

/-- The session after updates that a tracer takes. -/
def amended (s : Session) (n : NodeRef) (us : List Update) : Session :=
  { s with
    forest := s.forest.modify n fun m => { m with details := m.details.setting us }
    agent := s.agent.hearAll (us.map (.update (s.forest.idOf n))) }

variable {s : Session} {t : Thread} {n : NodeRef} {u : Update} {us : List Update}

theorem update_eq (s : Session) (t : Thread) (n : NodeRef) (u : Update) : s.update t n u =
    s.checked n ((s.forest.get n).verdict t u >>= fun _ => .ok ((), s.amended n [u])) := by
  unfold update Node.verdict
  dsimp only
  rcases (s.forest.get n).requireThread t with e | _
  · rfl
  rcases u.validate with e | _
  · rfl
  rcases requireUpdatable (s.forest.get n) u.field with e | _
  · rfl
  by_cases hk : u.field ∈ (s.forest.get n).kind.fields
  · obtain ⟨d, hd⟩ := Option.isSome_iff_exists.1 ((u.applied?_isSome_iff (s.forest.get n).details).2 hk)
    have hamended : s.amended n [u] = s.updated n u d := by
      unfold amended updated Details.setting
      rw [Forest.modify_congr (k := fun m => { m with details := d }) (by simp [hd])]
      rfl
    rw [if_pos hk, hamended]
    simp only [Update.apply, hd]
    rfl
  · have hd : u.applied? (s.forest.get n).details = none := by
      rw [← Option.not_isSome_iff_eq_none, u.applied?_isSome_iff]
      exact hk
    rw [if_neg hk]
    simp only [Update.apply, hd]
    rfl

theorem get_amended_same {α : Type} {q : Node → α} (hq : ∀ m d, q { m with details := d } = q m) (s : Session)
    (n m : NodeRef) (us : List Update) : q ((s.amended n us).forest.get m) = q (s.forest.get m) :=
  Forest.get_modify_same (fun m => hq m _) s.forest n m

theorem kind_amended (s : Session) (n m : NodeRef) (us : List Update) :
    ((s.amended n us).forest.get m).kind = (s.forest.get m).kind :=
  Forest.get_modify_same (fun m => m.details.kind_setting us) s.forest n m

theorem label_amended (s : Session) (n m : NodeRef) (us : List Update) :
    (s.amended n us).forest.label m = s.forest.label m :=
  Node.label_congr (get_amended_same (q := Node.id) (fun _ _ => rfl) s n m us) (s.kind_amended n m us)

theorem verdict_amended (s : Session) (n m : NodeRef) (us : List Update) (t : Thread) :
    ((s.amended n us).forest.get m).verdict t = (s.forest.get m).verdict t :=
  Node.verdict_congr (get_amended_same (q := Node.id) (fun _ _ => rfl) s n m us)
    (get_amended_same (q := Node.owner) (fun _ _ => rfl) s n m us) (s.kind_amended n m us)
    (get_amended_same (q := Node.state) (fun _ _ => rfl) s n m us) t

@[simp] theorem amended_nil (s : Session) (n : NodeRef) : s.amended n [] = s := by
  unfold amended
  rw [Forest.modify_same rfl]
  rfl

theorem amended_amended (s : Session) (n : NodeRef) (us us' : List Update) :
    (s.amended n us).amended n us' = s.amended n (us ++ us') := by
  have hid : (s.amended n us).forest.idOf n = s.forest.idOf n :=
    get_amended_same (q := Node.id) (fun _ _ => rfl) s n n us
  rw [amended, hid]
  unfold amended
  simp only [Forest.modify_modify, Details.setting_append, List.map_append, Agent.hearAll_append]

/-- Updates that a tracer takes are made, and the rest goes on from there. -/
theorem updateAll_append (h : ∀ u ∈ us, (s.forest.get n).verdict t u = .ok ()) (rest : List Update) :
    s.updateAll t n (us ++ rest) = (s.amended n us).updateAll t n rest := by
  induction us generalizing s with
  | nil => rw [amended_nil, List.nil_append]
  | cons u us ih =>
    obtain ⟨hu, hus⟩ := List.forall_mem_cons.1 h
    rw [← s.verdict_amended n n [u]] at hus
    have hnext := ih hus
    rw [amended_amended] at hnext
    rw [List.cons_append, updateAll, update_eq, hu]
    exact hnext

theorem updateAll_accepted (h : ∀ u ∈ us, (s.forest.get n).verdict t u = .ok ()) :
    s.updateAll t n us = (.ok (), s.amended n us) := by
  have hall := updateAll_append h []
  rwa [List.append_nil] at hall

theorem updateAll_refused {e : UsageError} (h : ∀ u ∈ us, (s.forest.get n).verdict t u = .ok ())
    (hu : (s.forest.get n).verdict t u = .error e) (rest : List Update) :
    s.updateAll t n (us ++ u :: rest) = (.error e, (s.amended n us).refused n e) := by
  rw [← s.verdict_amended n n us] at hu
  rw [updateAll_append h, updateAll, update_eq, hu]
  rfl

/-- Commands one by one, up to the first that gives back an error. -/
def untilRefused (s : Session) (t : Thread) : List Command → Except UsageError Unit × Session
  | [] => (.ok (), s)
  | c :: cs =>
    match (s.perform t c).1.error? with
    | some e => (.error e, (s.perform t c).2)
    | none => (s.perform t c).2.untilRefused t cs

theorem updateAll_eq_untilRefused (s : Session) (t : Thread) (n : NodeRef) (us : List Update) :
    s.updateAll t n us = s.untilRefused t (us.map (.update n)) := by
  induction us generalizing s with
  | nil => rfl
  | cons u us ih =>
    unfold updateAll
    simp only [List.map_cons, untilRefused, perform]
    cases s.update t n u with
    | mk result s' =>
      cases result with
      | error e => rfl
      | ok _ => exact ih s'

theorem addEach_eq_untilRefused (s : Session) (t : Thread) (ps : List (String × AttributeValue)) :
    s.addEach t ps = s.untilRefused t (ps.map fun p => .addAttribute p.1 p.2) := by
  induction ps generalizing s with
  | nil => rfl
  | cons p ps ih =>
    unfold addEach
    simp only [List.map_cons, untilRefused, perform]
    cases s.addAttribute t p.1 p.2 with
    | mk result s' =>
      cases result with
      | error e => rfl
      | ok _ => exact ih s'

end Session

/-! ## Pairs -/

/-- The setters that take a list of pairs. -/
inductive PairSetter where
  | requestHeaders
  | responseHeaders
  | parameters
  deriving DecidableEq, Repr

namespace PairSetter

/-- What the setter does with one pair. -/
def single : PairSetter → String × String → Update
  | requestHeaders, (k, v) => .requestHeader k v
  | responseHeaders, (k, v) => .responseHeader k v
  | parameters, (k, v) => .parameter k v

def add : PairSetter → Session → Thread → NodeRef → KeyValues → Except UsageError Unit × Session
  | requestHeaders => Session.addRequestHeaders
  | responseHeaders => Session.addResponseHeaders
  | parameters => Session.addParameters

/-- The details with pairs at the end of the list that the setter is for. -/
def append : PairSetter → Details → List (String × String) → Details
  | requestHeaders, .incomingWebRequest r, ps =>
    .incomingWebRequest { r with requestHeaders := r.requestHeaders ++ ps }
  | requestHeaders, .outgoingWebRequest r, ps =>
    .outgoingWebRequest { r with requestHeaders := r.requestHeaders ++ ps }
  | responseHeaders, .incomingWebRequest r, ps =>
    .incomingWebRequest { r with responseHeaders := r.responseHeaders ++ ps }
  | responseHeaders, .outgoingWebRequest r, ps =>
    .outgoingWebRequest { r with responseHeaders := r.responseHeaders ++ ps }
  | parameters, .incomingWebRequest r, ps => .incomingWebRequest { r with parameters := r.parameters ++ ps }
  | _, d, _ => d

variable (b : PairSetter)

theorem add_eq (s : Session) (t : Thread) (n : NodeRef) (kv : KeyValues) :
    b.add s t n kv = s.updateAll t n (kv.pairs.map b.single) := by
  cases b <;> rfl

theorem setting_eq (d : Details) (ps : List (String × String)) : d.setting (ps.map b.single) = b.append d ps := by
  induction ps generalizing d with
  | nil => cases b <;> cases d <;> simp [Details.setting, append]
  | cons p ps ih =>
    refine (ih _).trans ?_
    cases b <;> cases d <;> simp [append, single, Update.applied?]

theorem verdict_eq_ok_iff (m : Node) (t : Thread) (p : String × String) :
    m.verdict t (b.single p) = .ok () ↔ m.owner = t ∧ Text.allBlank p.1 = false ∧ Text.allBlank p.2 = false ∧
      (m.state = .created ∨ (m.state = .started ∧ b ≠ requestHeaders)) ∧ (b.single p).field ∈ m.kind.fields := by
  have hk : ∀ f, (if f ∈ m.kind.fields then return () else throw (.unsupportedField m.kind f) :
      Except UsageError Unit) = .ok () ↔ f ∈ m.kind.fields := by
    intro f
    split <;> simp_all [throw, throwThe, MonadExceptOf.throw, pure, Except.pure]
  unfold Node.verdict
  simp only [bind_eq_ok, Node.requireThread_eq_ok, exists_const, Session.requireUpdatable_eq_ok, hk]
  cases b <;> simp [single, Update.validate, Update.field, Field.isEntry, bind_eq_ok, requireNonBlank_eq_ok, and_assoc]

end PairSetter

/-! ## Pairs from two lists -/

/-- The first `count` of the keys with the values next to them, as far as there are both. -/
def keyed {α : Type} (keys : List String) (values : List α) (count : Nat) : List (String × α) :=
  let length := min count (min keys.length values.length)
  (keys.take length).zip (values.take length)

theorem take_zip_eq_keyed {α : Type} (keys : List String) (values : List α) (count : Nat) :
    (keys.zip values).take count = keyed keys values count := by
  rw [List.take_eq_take_min, List.length_zip, List.zip, List.take_zipWith]
  rfl

theorem KeyValues.pairs_ofParallel (keys values : List String) (count : Nat) :
    (ofParallel keys values count).pairs = keyed keys values count :=
  take_zip_eq_keyed keys values count

/-! ## Attributes -/

namespace Session

variable {s : Session} {t : Thread} {ps : List (String × AttributeValue)}

theorem addAttributes_eq (s : Session) (t : Thread) (keys : List String) (values : List AttributeValue) (count : Nat) :
    s.addAttributes t keys values count = s.addEach t (keyed keys values count) := by
  rw [addAttributes, take_zip_eq_keyed]

/-- What came of pairs that were accepted: the innermost tracer has them, or they were reported. -/
structure Attached (s : Session) (t : Thread) (ps : List (String × AttributeValue)) (s' : Session) : Prop where
  active : ∀ n, s.active? t = some n →
    s' = { s with forest := s.forest.modify n fun m => { m with attributes := m.attributes ++ ps } } ∧
      (s'.forest.get n).attributes = (s.forest.get n).attributes ++ ps
  idle : s.active? t = none → s' = (ps.map Prod.fst).foldl (fun s key => s.warn (lostMessage key)) s

/-- Accepted pairs come to what is said of them, and the rest of the batch goes on from there. -/
theorem addEach_accepted (hs : s.Sound) (h : ∀ p ∈ ps, Text.allBlank p.1 = false) :
    ∃ s', s.Attached t ps s' ∧ ∀ rest, s.addEach t (ps ++ rest) = s'.addEach t rest := by
  cases ha : s.active? t with
  | some n =>
    refine ⟨{ s with forest := s.forest.modify n fun m => { m with attributes := m.attributes ++ ps } }, ?_, ?_⟩
    · refine ⟨fun m hm => ?_, fun hnone => ?_⟩
      · obtain rfl : n = m := Option.some.inj (ha.symm.trans hm)
        exact ⟨rfl, by rw [Forest.get_modify _ _ _ _ (hs.lt_of_active ha), if_pos rfl]⟩
      · rw [ha] at hnone
        cases hnone
    · intro rest
      clear hs
      induction ps generalizing s with
      | nil =>
        rw [Forest.modify_same (by simp)]
        rfl
      | cons p ps ih =>
        obtain ⟨key, value⟩ := p
        obtain ⟨hp, hps⟩ := List.forall_mem_cons.1 h
        have hrest := ih hps (s := s.modifyNode n fun m => { m with attributes := m.attributes ++ [(key, value)] }) ha
        rw [List.cons_append, addEach, addAttribute_active hp ha]
        simpa [modifyNode, Forest.modify_modify] using hrest
  | none =>
    refine ⟨(ps.map Prod.fst).foldl (fun s key => s.warn (lostMessage key)) s, ⟨?_, fun _ => rfl⟩, ?_⟩
    · intro n hn
      rw [ha] at hn
      cases hn
    · intro rest
      clear hs
      induction ps generalizing s with
      | nil => rfl
      | cons p ps ih =>
        obtain ⟨key, value⟩ := p
        obtain ⟨hp, hps⟩ := List.forall_mem_cons.1 h
        rw [List.cons_append, addEach, addAttribute_idle hp ha]
        exact ih hps (s := s.warn (lostMessage key)) ha

end Session

/-! ## What batches come to -/

namespace Session

/-- The session after a tracer took some pairs, and its agent heard of each. -/
structure Appended (s : Session) (n : NodeRef) (b : PairSetter) (ps : List (String × String)) (s' : Session) :
    Prop where
  get : s'.forest.get n = { s.forest.get n with details := b.append (s.forest.get n).details ps }
  others : ∀ m, m ≠ n → s'.forest.get m = s.forest.get m
  size : s'.forest.size = s.forest.size
  agent : s'.agent = s.agent.hearAll (ps.map fun p => .update (s.forest.idOf n) (b.single p))
  calls : s'.agent.calls = s.agent.calls ++
    if s.agent.isFound then ps.map fun p => .update (s.forest.idOf n) (b.single p) else []
  rest : s' = { s with forest := s'.forest, agent := s'.agent }

/-- What batches of pairs for a tracer, and batches of attributes, come to on a thread. -/
structure BatchesAgree (s : Session) (t : Thread) (n : NodeRef) : Prop where
  /-- A batch of pairs has the effect and the result of the single updates. -/
  pairs_oneByOne : ∀ (b : PairSetter) (kv : KeyValues), b.add s t n kv =
    s.untilRefused t (kv.pairs.map fun p => .update n (b.single p))
  /-- Pairs that come as two lists are the first of both, as many as asked for. -/
  pairs_parallel : ∀ (b : PairSetter) keys values count, b.add s t n (.ofParallel keys values count) =
    s.untilRefused t ((keyed keys values count).map fun p => .update n (b.single p))
  /-- A pair is accepted or not whatever came before it. -/
  accepted_iff : ∀ (b : PairSetter) (p : String × String), (s.update t n (b.single p)).1 = .ok () ↔
    (s.forest.get n).owner = t ∧ Text.allBlank p.1 = false ∧ Text.allBlank p.2 = false ∧
    ((s.forest.get n).state = .created ∨ ((s.forest.get n).state = .started ∧ b ≠ .requestHeaders)) ∧
    (b.single p).field ∈ (s.forest.get n).kind.fields
  pairs_accepted : ∀ (b : PairSetter) (kv : KeyValues),
    (∀ p ∈ kv.pairs, (s.update t n (b.single p)).1 = .ok ()) →
      (b.add s t n kv).1 = .ok () ∧ s.Appended n b kv.pairs (b.add s t n kv).2
  /-- The first pair that is refused is counted once, and the pairs after it are left alone. -/
  pairs_refused : ∀ (b : PairSetter) pre p post e, (∀ q ∈ pre, (s.update t n (b.single q)).1 = .ok ()) →
    (s.update t n (b.single p)).1 = .error e → (b.add s t n ⟨pre ++ p :: post⟩).1 = .error e ∧
      ∃ s', s.Appended n b pre s' ∧ (b.add s t n ⟨pre ++ p :: post⟩).2 = { s' with
        metrics := { s.metrics with usageErrors := s.metrics.usageErrors + 1 }
        events := s.events ++ [.usageError (s.forest.label n) e] }
  attributes_oneByOne : ∀ keys values count, s.addAttributes t keys values count =
    s.untilRefused t ((keyed keys values count).map fun p => .addAttribute p.1 p.2)
  attributes_accepted : ∀ keys values count, (∀ p ∈ keyed keys values count, Text.allBlank p.1 = false) →
    (s.addAttributes t keys values count).1 = .ok () ∧
      s.Attached t (keyed keys values count) (s.addAttributes t keys values count).2
  /-- The first blank key is what comes back, and it is not counted. -/
  attributes_blank : ∀ keys values count pre p post, keyed keys values count = pre ++ p :: post →
    (∀ q ∈ pre, Text.allBlank q.1 = false) → Text.allBlank p.1 = true →
      (s.addAttributes t keys values count).1 = .error (.blankArgument "key" p.1) ∧
        s.Attached t pre (s.addAttributes t keys values count).2

variable {s : Session} {t : Thread} {n : NodeRef}

theorem update_fst (s : Session) (t : Thread) (n : NodeRef) (u : Update) :
    (s.update t n u).1 = (s.forest.get n).verdict t u := by
  rw [update_eq]
  cases (s.forest.get n).verdict t u <;> rfl

theorem amended_appended (b : PairSetter) {ps : List (String × String)}
    (h : ∀ p ∈ ps, (s.forest.get n).verdict t (b.single p) = .ok ()) :
    s.Appended n b ps (s.amended n (ps.map b.single)) where
  get := by
    have hget : ∀ m : Node, { m with details := m.details.setting (ps.map b.single) } =
        { m with details := b.append m.details ps } := fun m => by rw [b.setting_eq]
    cases ps with
    | nil => rw [← hget, List.map_nil, amended_nil]; rfl
    | cons p ps =>
      -- A tracer that takes anything is there.
      have hst := ((b.verdict_eq_ok_iff _ _ _).1 (h p (by simp))).2.2.2.1
      have hn : n < s.forest.size := Forest.lt_size_of_state (by rcases hst with hst | hst <;> simp [hst])
      rw [← hget]
      exact (Forest.get_modify _ _ _ _ hn).trans (if_pos rfl)
  others m hm := Forest.get_modify_ne (Ne.symm hm)
  size := Forest.size_modify ..
  agent := by
    rw [amended, List.map_map]
    rfl
  calls := by
    rw [amended, List.map_map]
    exact Agent.calls_hearAll _ _
  rest := rfl

theorem Sound.batches (hs : s.Sound) (t : Thread) (n : NodeRef) : s.BatchesAgree t n where
  pairs_oneByOne b kv := by
    rw [b.add_eq, updateAll_eq_untilRefused, List.map_map]
    rfl
  pairs_parallel b keys values count := by
    rw [b.add_eq, updateAll_eq_untilRefused, List.map_map, KeyValues.pairs_ofParallel]
    rfl
  accepted_iff b p := by
    rw [update_fst]
    exact b.verdict_eq_ok_iff _ t p
  pairs_accepted b kv h := by
    simp only [update_fst] at h
    rw [b.add_eq, updateAll_accepted (List.forall_mem_map.2 h)]
    exact ⟨rfl, amended_appended b h⟩
  pairs_refused b pre p post e h hp := by
    simp only [update_fst] at h hp
    have happended := amended_appended b h
    rw [b.add_eq, List.map_append, List.map_cons, updateAll_refused (List.forall_mem_map.2 h) hp]
    refine ⟨rfl, _, happended, ?_⟩
    rw [refused, label_amended]
    rfl
  attributes_oneByOne keys values count := by
    rw [addAttributes_eq, addEach_eq_untilRefused]
  attributes_accepted keys values count h := by
    obtain ⟨s', hs', hrest⟩ := addEach_accepted (t := t) hs h
    have hend := hrest []
    rw [List.append_nil] at hend
    rw [addAttributes_eq, hend]
    exact ⟨rfl, hs'⟩
  attributes_blank keys values count pre p post hkeyed h hp := by
    obtain ⟨s', hs', hrest⟩ := addEach_accepted (t := t) hs h
    obtain ⟨key, value⟩ := p
    rw [addAttributes_eq, hkeyed, hrest, addEach, addAttribute_blank hp]
    exact ⟨rfl, hs'⟩

end Session

namespace Application

/-- Batch setters do to a prefix what single setters do, and leave the rest alone. -/
theorem Reachable.batchesAgree {app : Application} (h : app.Reachable) {r : SessionRef} (hr : r < app.sessions.size)
    (t : Thread) (n : NodeRef) : (app.get r).BatchesAgree t n :=
  (h.sound hr).batches t n

/-- A web request is served, and another one has not started. -/
def servedProgram : List (SessionRef × Thread × Command) :=
  let application : WebApplicationInfo := ⟨"host", "application", "/"⟩
  let incoming := Details.incomingWebRequest ⟨application, "url", "GET", [("Accept", "*")], [], [], none, none⟩
  let outgoing := Details.outgoingWebRequest ⟨"url", "GET", [], [], none⟩
  [(1, ⟨"a"⟩, .create (.ofNat 1) incoming), (1, ⟨"a"⟩, .create (.ofNat 2) outgoing), (1, ⟨"a"⟩, .start 0)]

theorem batchesAgree_servedProgram :
    let app := (({} : Application).newSession "session" (.recording {}) {}).2.played servedProgram
    let s := app.get 1
    let kv : KeyValues := .ofList [("a", "1"), ("b", "2"), ("c", " "), ("d", "4")]
    let values : List AttributeValue := [.integer 1, .integer 2, .integer 3]
    s.BatchesAgree ⟨"a"⟩ 0 ∧ s.BatchesAgree ⟨"a"⟩ 1 ∧ s.BatchesAgree ⟨"b"⟩ 1 ∧
      (s.addParameters ⟨"a"⟩ 0 kv).1 = .error (.blankArgument "value" " ") ∧
      (s.addParameters ⟨"a"⟩ 0 kv).2.agent.calls = s.agent.calls ++
        [.update (.ofNat 1) (.parameter "a" "1"), .update (.ofNat 1) (.parameter "b" "2")] ∧
      (s.addParameters ⟨"a"⟩ 0 kv).2.metrics.usageErrors = s.metrics.usageErrors + 1 ∧
      (s.addRequestHeaders ⟨"a"⟩ 0 kv).1 = .error (.entryFieldTooLate (s.forest.label 0) .requestHeader) ∧
      (s.addRequestHeaders ⟨"b"⟩ 1 kv).1 = .error (.threadAffinity (s.forest.label 1) ⟨"a"⟩ ⟨"b"⟩) ∧
      ((s.addAttributes ⟨"a"⟩ ["x", "y", "", "z"] values 5).2.forest.get 0).attributes =
        [("x", .integer 1), ("y", .integer 2)] := by
  have hnew : (Agent.recording {}).IsNew := by
    rintro r ⟨⟩
    exact ⟨rfl, rfl, rfl⟩
  have hrun := (Reachable.init.newSession "session" (.recording {}) {} hnew).played servedProgram (by decide +kernel)
  have agree := fun t n => Reachable.batchesAgree hrun (r := 1) (by decide +kernel) t n
  exact ⟨agree _ 0, agree _ 1, agree _ 1, by decide +kernel, by decide +kernel, by decide +kernel, by decide +kernel,
    by decide +kernel, by decide +kernel⟩

end Application

end CallPath
