import CallPath.Proofs.Effects
/-!
# Calls on a tracer, write by write

An operation of a session hands back a session only if it passes, so what a refused one had done by
then is undone by its form. Here the calls on a tracer are the steps they are made of: each step
writes into the session at once, and what is written stays when a later check fails. The two agree
(`performInPlace_eq`). A start on a thread without a path is where that is not plain: it makes an
entry for the path before it finds that it may not start, and takes back any entry that is empty in
the end. Hence no entry may have been empty before (`ThreadPaths.IsTidy`), and none ever is
(`Run.isTidy`).
-/

namespace CallPath

/-! ## Entries for paths -/

namespace Table

variable {κ ν : Type} [DecidableEq κ]

theorem insertIn_insertIn (k : κ) (v v' : ν) (bs : List (κ × ν)) :
    insertIn k v' (insertIn k v bs) = insertIn k v' bs := by
  induction bs with
  | nil => simp [insertIn]
  | cons b bs ih =>
    by_cases hb : k = b.1
    · simp [insertIn, hb]
    · simp [insertIn, hb, ih]

theorem filter_insertIn (k : κ) (v : ν) (bs : List (κ × ν)) :
    (insertIn k v bs).filter (fun b => b.1 ≠ k) = bs.filter fun b => b.1 ≠ k := by
  induction bs with
  | nil => simp [insertIn]
  | cons b bs ih =>
    by_cases hb : k = b.1
    · simp [insertIn, hb]
    · rw [insertIn, if_neg hb, List.filter_cons, List.filter_cons, ih]

theorem filter_of_findIn {k : κ} {bs : List (κ × ν)} (h : findIn k bs = none) :
    bs.filter (fun b => b.1 ≠ k) = bs := by
  induction bs with
  | nil => rfl
  | cons b bs ih =>
    by_cases hb : k = b.1
    · simp [findIn, hb] at h
    · rw [findIn, if_neg hb] at h
      rw [List.filter_cons_of_pos (by simpa using Ne.symm hb), ih h]

@[simp] theorem insert_insert (t : Table κ ν) (k : κ) (v v' : ν) : (t.insert k v).insert k v' = t.insert k v' :=
  congrArg mk (insertIn_insertIn k v v' t.bindings)

@[simp] theorem erase_insert (t : Table κ ν) (k : κ) (v : ν) : (t.insert k v).erase k = t.erase k :=
  congrArg mk (filter_insertIn k v t.bindings)

theorem erase_of_get? {t : Table κ ν} {k : κ} (h : t.get? k = none) : t.erase k = t :=
  congrArg mk (filter_of_findIn h)

end Table

namespace ThreadPaths

/-- The paths with an entry for the thread. -/
def enter (ps : ThreadPaths) (t : Thread) : ThreadPaths :=
  if ps.contains t then ps else ⟨ps.table.insert t {}⟩

/-- The paths without the entry of the thread, if it is empty. -/
def sweep (ps : ThreadPaths) (t : Thread) : ThreadPaths :=
  if (ps.table.get? t).any (·.stack.isEmpty) then ⟨ps.table.erase t⟩ else ps

/-- No entry is empty. -/
def IsTidy (ps : ThreadPaths) : Prop :=
  ∀ t p, ps.table.get? t = some p → p.stack ≠ []

variable {ps : ThreadPaths} {t : Thread}

theorem get?_enter (ps : ThreadPaths) (t : Thread) : (ps.enter t).table.get? t = some (ps.get t) := by
  unfold enter contains get
  cases h : ps.table.get? t with
  | none => simp
  | some p => simp [h]

@[simp] theorem insert_enter (ps : ThreadPaths) (t : Thread) (p : Path) :
    (ps.enter t).table.insert t p = ps.table.insert t p := by
  unfold enter
  split <;> simp

/-- Replacing an entry and sweeping is setting the path. -/
@[simp] theorem sweep_insert (ps : ThreadPaths) (t : Thread) (p : Path) :
    (⟨ps.table.insert t p⟩ : ThreadPaths).sweep t = ps.set t p := by
  by_cases hp : p.stack.isEmpty = true
  · simp [sweep, set, hp]
  · simp [sweep, set, hp]

theorem IsTidy.sweep_eq (h : ps.IsTidy) (t : Thread) : ps.sweep t = ps := by
  unfold sweep
  cases hp : ps.table.get? t with
  | none => rfl
  | some p => simp [h t p hp]

/-- The entry made for a path is taken back if the path stays empty. -/
theorem IsTidy.sweep_enter (h : ps.IsTidy) (t : Thread) : (ps.enter t).sweep t = ps := by
  cases hp : ps.table.get? t with
  | none => simp [enter, contains, hp, sweep, Table.erase_of_get?]
  | some p =>
    have he : ps.enter t = ps := by simp [enter, contains, hp]
    rw [he, h.sweep_eq]

theorem IsTidy.set (h : ps.IsTidy) (t : Thread) (p : Path) : (ps.set t p).IsTidy := by
  intro t' q hq
  unfold ThreadPaths.set at hq
  dsimp only at hq
  split at hq
  · rw [Table.get?_erase] at hq
    split at hq
    · cases hq
    · exact h t' q hq
  · rename_i hp
    rw [Table.get?_insert] at hq
    split at hq
    · obtain rfl := Option.some.inj hq
      simpa using hp
    · exact h t' q hq

end ThreadPaths

theorem Forest.modify_self {f : Forest} {n : NodeRef} {g : Node → Node} (h : g (f.get n) = f.get n) :
    f.modify n g = f := by
  have hn : f.nodes.modify n g = f.nodes := by
    apply Array.ext (by simp)
    intro i _ hi
    rw [Array.getElem_modify]
    split
    · rename_i e
      subst e
      simpa [get, Array.getD_eq_getD_getElem?, Array.getElem?_eq_getElem hi] using h
    · rfl
  simp [Forest.modify, hn]

/-! ## The calls as steps -/

/-- Steps that write into a session; what they wrote stays when a later one fails. -/
abbrev InPlace (α : Type) := ExceptT UsageError (StateM Session) α

/-- Writes a field where it belongs; details without the field are left alone. -/
def Update.write (u : Update) (d : Details) : Except UsageError Unit × Details :=
  match u.applied? d with
  | some d' => (.ok (), d')
  | none => (.error (.unsupportedField d.kind u.field), d)

namespace InPlace

variable {α : Type}

/-- Steps on the path of a thread, which has an entry at least while they last if `create` is set. -/
def withPath (t : Thread) (create : Bool) (steps : Option Path → InPlace α) : InPlace α := ExceptT.mk do
  if create then modify fun s => { s with paths := s.paths.enter t }
  let result ← (steps ((← get).paths.table.get? t)).run
  -- This is done whether the steps fail or not.
  modify fun s => { s with paths := s.paths.sweep t }
  return result

/-- Replaces the path of a thread that has an entry. -/
def setPath (t : Thread) (p : Path) : InPlace Unit :=
  modify fun s => { s with paths := ⟨s.paths.table.insert t p⟩ }

/-- Puts a tracer on top of a path and below the tracer that was there. -/
def push (t : Thread) (n : NodeRef) (p : Path) : InPlace Unit := do
  let node := (← get).forest.get n
  ofExcept (node.requireState .created)
  match p.stack with
  | top :: _ => modify fun s => s.modifyNode top (·.link .child n)
  | [] => if !node.kind.isEntrypoint then throw (.noActivePath node.label)
  setPath t ⟨n :: p.stack⟩

/-- Takes a tracer off the top of a path; gives it back if it was the last. -/
def pop (t : Thread) (n : NodeRef) (p : Path) : InPlace (Option NodeRef) := do
  let f := (← get).forest
  match p.stack with
  | [] => throw (.outOfOrderEnd (f.label n) "nothing")
  | top :: rest =>
    if top ≠ n then throw (.outOfOrderEnd (f.label n) (f.label top))
    setPath t ⟨rest⟩
    return if rest.isEmpty then some n else none

def setState (n : NodeRef) (state : TracerState) : InPlace Unit :=
  modify fun s => { s.modifyNode n (·.enter state s.clock) with clock := s.clock + 1 }

def start (t : Thread) (n : NodeRef) : InPlace Unit := do
  let node := (← get).forest.get n
  ofExcept (node.requireThread t)
  ofExcept (node.requireState .created)
  withPath t true fun path? => path?.elim (throw (.noActivePath node.label)) (push t n)
  setState n .started
  modify fun s => { s with agent := s.agent.start node.id }
  modify fun s => { s with metrics := s.metrics.recordStarted }

def finish (n : NodeRef) : InPlace Unit := do
  setState n .ended
  modify fun s => { s with agent := s.agent.endTracer (s.forest.idOf n) }
  modify fun s => { s with metrics := s.metrics.recordEnded }

def endTracer (t : Thread) (n : NodeRef) : InPlace Unit := do
  let node := (← get).forest.get n
  ofExcept (node.requireThread t)
  match node.state with
  | .ended => return
  | .created => finish n
  | .started =>
    let unended := (← get).forest.unendedChildren n
    if unended ≠ [] then throw (.unendedChildren node.label unended)
    let root? ← withPath t false fun path? =>
      path?.elim (throw (.outOfOrderEnd node.label "nothing")) (pop t n)
    finish n
    if let some root := root? then modify fun s => s.completePath root

def update (t : Thread) (n : NodeRef) (u : Update) : InPlace Unit := do
  let node := (← get).forest.get n
  ofExcept (node.requireThread t)
  ofExcept u.validate
  ofExcept (Session.requireUpdatable node u.field)
  -- What the write left is in its place before a failure of it shows.
  let (result, details) := u.write node.details
  modify fun s => s.modifyNode n fun m => { m with details }
  ofExcept result
  modify fun s => { s with agent := s.agent.update node.id u }

def markFailed (t : Thread) (n : NodeRef) (className message : String) : InPlace Unit := do
  let node := (← get).forest.get n
  ofExcept (node.requireThread t)
  ofExcept (requireNonBlank "error_class" className)
  ofExcept (node.requireState .started)
  if node.error.isSome then throw (.alreadyFailed node.label)
  modify fun s => s.modifyNode n fun m => { m with error := some ⟨className, message⟩ }
  modify fun s => { s with agent := s.agent.error node.id className message }
  modify fun s => { s with metrics := s.metrics.recordFailed }

def outgoingTag (t : Thread) (n : NodeRef) (form : TagForm) : InPlace (List UInt8) := do
  let node := (← get).forest.get n
  ofExcept (node.requireThread t)
  ofExcept (node.requireCapability .outgoingTaggable)
  ofExcept (node.requireState .started)
  let (tag, agent) := (← get).agent.getOutgoingTag node.id form
  modify fun s => { s with agent }
  return tag

def setIncomingTag (t : Thread) (n : NodeRef) (tag : IncomingTag) : InPlace Unit := do
  let node := (← get).forest.get n
  ofExcept (node.requireThread t)
  ofExcept (node.requireCapability .incomingTaggable)
  ofExcept (node.requireState .created)
  if tag.decode.isNone && !tag.isEmpty then modify fun s => s.log (.tagUndecodable node.label)
  modify fun s => s.modifyNode n fun m => { m with receipt := .ofDecoded tag.decode }
  modify fun s => { s with agent := s.agent.setIncomingTag node.id tag }

end InPlace

namespace Session

/-- Runs the steps of a call on a tracer; a failure is counted and logged. -/
def call {α : Type} (s : Session) (n : NodeRef) (steps : InPlace α) : Except UsageError α × Session :=
  match steps.run.run s with
  | (.ok a, s) => (.ok a, s)
  | (.error e, s) => (.error e, s.refused n e)

/-- Runs a command on a thread, the calls on a tracer write by write. -/
def performInPlace (s : Session) (t : Thread) : Command → Reply × Session
  | .start n => (s.call n (.start t n)).map .done id
  | .endTracer n => (s.call n (.endTracer t n)).map .done id
  | .update n u => (s.call n (.update t n u)).map .done id
  | .markFailed n className message => (s.call n (.markFailed t n className message)).map .done id
  | .outgoingTag n form => (s.call n (.outgoingTag t n form)).map .tag id
  | .setIncomingTag n tag => (s.call n (.setIncomingTag t n tag)).map .done id
  | c => s.perform t c

end Session

/-! ## What the steps come to -/

variable {α β γ : Type} {s : Session} {t : Thread} {n : NodeRef}

theorem InPlace.run_bind (steps : InPlace γ) (k : γ → InPlace α) (s : Session) :
    (steps >>= k).run.run s = match steps.run.run s with
      | (.ok c, s') => (k c).run.run s'
      | (.error e, s') => (.error e, s') := by
  unfold ExceptT.run StateT.run
  simp only [bind, ExceptT.bind, ExceptT.mk, StateT.bind, ExceptT.bindCont]
  cases steps s with
  | mk result s' => cases result <;> rfl

/-- The steps come to a result, and where that is a failure, the session is as it was before them. -/
def InPlace.ComesTo (steps : InPlace α) (s : Session) (r : Except UsageError (α × Session)) : Prop :=
  steps.run.run s = match r with
    | .ok (a, s') => (.ok a, s')
    | .error e => (.error e, s)

namespace InPlace.ComesTo

theorem call_eq {steps : InPlace α} {r : Except UsageError (α × Session)} (h : steps.ComesTo s r) :
    s.call n steps = s.checked n r := by
  unfold ComesTo at h
  unfold Session.call
  rw [h]
  cases r <;> rfl

theorem get {k : Session → InPlace α} {r : Except UsageError (α × Session)} (h : (k s).ComesTo s r) :
    ComesTo (MonadState.get >>= k) s r := h

/-- The same check on both sides. -/
theorem check {x : Except UsageError γ} {k : γ → InPlace α} {f : γ → Except UsageError (α × Session)}
    (h : ∀ c, (k c).ComesTo s (f c)) : ComesTo (ofExcept x >>= k) s (x >>= f) := by
  cases x with
  | error e => rfl
  | ok c => exact h c

/-- What follows writes, and cannot fail any more. -/
theorem andThen {steps : InPlace γ} {r : Except UsageError (γ × Session)} {k : γ → InPlace α}
    {f : γ × Session → α × Session} (h : steps.ComesTo s r)
    (hk : ∀ c s', (k c).ComesTo s' (.ok (f (c, s')))) : ComesTo (steps >>= k) s (r >>= fun x => .ok (f x)) := by
  unfold ComesTo at h ⊢
  rw [run_bind, h]
  cases r with
  | error e => rfl
  | ok x => exact hk x.1 x.2

end InPlace.ComesTo

open InPlace

theorem Session.call_markFailed (className message : String) :
    s.call n (.markFailed t n className message) = s.markFailed t n className message := by
  unfold InPlace.markFailed Session.markFailed
  refine ComesTo.call_eq (.get (.check fun _ => .check fun _ => .check fun _ => ?_))
  cases (s.forest.get n).error with
  | none => rfl
  | some _ => rfl

theorem Session.call_outgoingTag (form : TagForm) : s.call n (.outgoingTag t n form) = s.outgoingTag t n form := by
  unfold InPlace.outgoingTag Session.outgoingTag
  exact ComesTo.call_eq (.get (.check fun _ => .check fun _ => .check fun _ => rfl))

theorem Session.call_setIncomingTag (tag : IncomingTag) :
    s.call n (.setIncomingTag t n tag) = s.setIncomingTag t n tag := by
  unfold InPlace.setIncomingTag Session.setIncomingTag
  refine ComesTo.call_eq (.get (.check fun _ => .check fun _ => .check fun _ => ?_))
  cases tag.decode.isNone && !tag.isEmpty with
  | true => rfl
  | false => rfl

theorem Session.call_update (u : Update) : s.call n (.update t n u) = s.update t n u := by
  unfold InPlace.update Session.update
  refine ComesTo.call_eq (.get (.check fun _ => .check fun _ => .check fun _ => ?_))
  unfold Update.write Update.apply
  cases h : u.applied? (s.forest.get n).details with
  | some details => rfl
  | none =>
    have hs : (s.modifyNode n fun m => { m with details := (s.forest.get n).details }) = s := by
      unfold Session.modifyNode
      rw [Forest.modify_self rfl]
    show (_, s.modifyNode n _) = (_, s)
    rw [hs]

namespace InPlace

theorem push_comesTo (t : Thread) (n : NodeRef) (p : Path) : (push t n p).ComesTo s (do
    let (forest, path) ← p.push s.forest n
    return ((), { s with forest, paths := ⟨s.paths.table.insert t path⟩ })) := by
  obtain ⟨stack⟩ := p
  unfold push Path.push
  refine .get ?_
  dsimp only
  cases (s.forest.get n).requireState .created with
  | error e => rfl
  | ok _ =>
    cases stack with
    | cons top rest => rfl
    | nil =>
      cases (s.forest.get n).kind.isEntrypoint with
      | true => rfl
      | false => rfl

theorem pop_comesTo (t : Thread) (n : NodeRef) (p : Path) : (pop t n p).ComesTo s (do
    let (root?, path) ← p.pop s.forest n
    return (root?, { s with paths := ⟨s.paths.table.insert t path⟩ })) := by
  obtain ⟨stack⟩ := p
  unfold pop Path.pop
  refine .get ?_
  dsimp only
  cases stack with
  | nil => rfl
  | cons top rest =>
    by_cases h : top = n
    · simp only [h, ne_eq, not_true_eq_false, if_true, if_false]
      rfl
    · simp only [h, ne_eq, not_false_eq_true, if_true, if_false]
      rfl

/-- The session while its steps on the path of a thread last. -/
def entered (s : Session) (t : Thread) (create : Bool) : Session :=
  if create then { s with paths := s.paths.enter t } else s

theorem withPath_run (steps : Option Path → InPlace α) (create : Bool) (s : Session) :
    (withPath t create steps).run.run s =
      let x := (steps ((entered s t create).paths.table.get? t)).run.run (entered s t create)
      (x.1, { x.2 with paths := x.2.paths.sweep t }) := by
  cases create <;> rfl

theorem entered_swept (h : s.paths.IsTidy) (t : Thread) (create : Bool) :
    { entered s t create with paths := (entered s t create).paths.sweep t } = s := by
  cases create with
  | true => exact congrArg (fun ps => { s with paths := ps }) (h.sweep_enter t)
  | false => exact congrArg (fun ps => { s with paths := ps }) (h.sweep_eq t)

/-- Steps that replace the path they are given replace that of the thread. -/
theorem withPath_comesTo {steps : Option Path → InPlace α} {create : Bool} {r : Except UsageError (α × Forest × Path)}
    (h : s.paths.IsTidy) (hsteps : (steps ((entered s t create).paths.table.get? t)).ComesTo (entered s t create) (do
      let (a, forest, path) ← r
      return (a, { s with forest, paths := ⟨(entered s t create).paths.table.insert t path⟩ }))) :
    (withPath t create steps).ComesTo s (do
      let (a, forest, path) ← r
      return (a, { s with forest, paths := s.paths.set t path })) := by
  unfold ComesTo at hsteps ⊢
  rw [withPath_run, hsteps]
  cases r with
  | error e => exact Prod.ext rfl (entered_swept h t create)
  | ok x =>
    obtain ⟨a, forest, path⟩ := x
    have hset : (⟨(entered s t create).paths.table.insert t path⟩ : ThreadPaths).sweep t = s.paths.set t path := by
      cases create <;> simp [entered]
    exact congrArg (fun ps => (Except.ok a, { s with forest, paths := ps })) hset

end InPlace

/-- A push begins with the check of the state. -/
theorem Path.requireState_push (p : Path) (f : Forest) (n : NodeRef) :
    ((f.get n).requireState .created >>= fun _ => p.push f n) = p.push f n := by
  unfold Path.push
  dsimp only
  cases (f.get n).requireState .created <;> rfl

theorem Session.call_start (h : s.paths.IsTidy) : s.call n (.start t n) = s.start t n := by
  have hpush : (withPath t true fun path? => path?.elim (throw (.noActivePath (s.forest.get n).label))
      (push t n)).ComesTo s (do
        let ((), forest, path) ← (do
          let (forest, path) ← (s.paths.get t).push s.forest n
          return ((), forest, path))
        return ((), { s with forest, paths := s.paths.set t path })) := by
    refine withPath_comesTo h ?_
    have he : (entered s t true).paths.table.get? t = some (s.paths.get t) := ThreadPaths.get?_enter s.paths t
    rw [he, bind_assoc]
    exact push_comesTo t n (s.paths.get t)
  unfold InPlace.start Session.start
  refine ComesTo.call_eq (.get (.check fun _ => ?_))
  dsimp only
  -- The state is checked twice, here and by the push.
  rw [← Path.requireState_push, bind_assoc]
  refine .check fun _ => ?_
  cases hp : (s.paths.get t).push s.forest n <;> rw [hp] at hpush
  all_goals
    exact hpush.andThen (f := fun x => ((), { x.2 with
      forest := x.2.forest.modify n (·.enter .started x.2.clock)
      clock := x.2.clock + 1
      agent := x.2.agent.start (s.forest.idOf n)
      metrics := x.2.metrics.recordStarted })) fun _ _ => rfl

theorem InPlace.finish_comesTo (s : Session) (n : NodeRef) : (finish n).ComesTo s (.ok ((), s.finish n)) := by
  have hid : (s.forest.modify n (·.enter .ended s.clock)).idOf n = s.forest.idOf n :=
    Forest.get_modify_same (g := (·.enter .ended s.clock)) (p := Node.id) (fun _ => rfl) s.forest n n
  refine Prod.ext rfl ?_
  show { s with
    forest := s.forest.modify n (·.enter .ended s.clock)
    clock := s.clock + 1
    agent := s.agent.endTracer ((s.forest.modify n (·.enter .ended s.clock)).idOf n)
    metrics := s.metrics.recordEnded } = s.finish n
  rw [hid]
  rfl

theorem Session.call_endTracer (h : s.paths.IsTidy) : s.call n (.endTracer t n) = s.endTracer t n := by
  have hpop : (withPath t false fun path? => path?.elim (throw (.outOfOrderEnd (s.forest.get n).label "nothing"))
      (pop t n)).ComesTo s (do
        let (root?, forest, path) ← (do
          let (root?, path) ← (s.paths.get t).pop s.forest n
          return (root?, s.forest, path))
        return (root?, { s with forest, paths := s.paths.set t path })) := by
    refine withPath_comesTo h ?_
    have he : entered s t false = s := rfl
    rw [bind_assoc, he]
    unfold ThreadPaths.get
    cases s.paths.table.get? t with
    | none => rfl
    | some p => exact pop_comesTo t n p
  unfold InPlace.endTracer Session.endTracer
  refine ComesTo.call_eq (.get (.check fun _ => ?_))
  dsimp only
  cases (s.forest.get n).state with
  | ended => rfl
  | created => exact finish_comesTo s n
  | started =>
    refine .get ?_
    by_cases hu : s.forest.unendedChildren n = []
    · simp only [hu, ne_eq, not_true_eq_false, if_false]
      have hend : ∀ (root? : Option NodeRef) (s : Session), (do
          InPlace.finish n
          if let some root := root? then modify fun s => s.completePath root : InPlace Unit).ComesTo s
            (.ok ((), root?.elim (s.finish n) (s.finish n).completePath)) := by
        intro root? s
        refine (finish_comesTo s n).andThen (f := fun x => ((), root?.elim x.2 x.2.completePath)) ?_
        intro _ s'
        cases root? <;> rfl
      cases hp : (s.paths.get t).pop s.forest n <;> rw [hp] at hpop
      all_goals
        exact hpop.andThen (f := fun x => ((), x.1.elim (x.2.finish n) (x.2.finish n).completePath)) hend
    · simp only [hu, ne_eq, not_false_eq_true, if_true]
      rfl

/-! ## No entry is ever empty -/

theorem Effect.isTidy {s' : Session} {ms : List Mark} (he : Effect t s ms s') (h : s.paths.IsTidy) :
    s'.paths.IsTidy := by
  cases he with
  | begun n => exact h.set _ _
  | unwound n rest => exact h.set _ _
  | completed n =>
    rw [(Session.completePath_same (s.unwound t n []) n).2.1]
    exact h.set _ _
  | _ => exact h

theorem ThreadPaths.isTidy_empty : ({} : ThreadPaths).IsTidy := by
  intro t p hp
  simp [Table.get?, Table.findIn] at hp

theorem Run.isTidy_of {s₀ : Session} {log : List Step} (h0 : s₀.paths = {}) (h : Run s₀ s log) : s.paths.IsTidy := by
  apply h.inv (fun _ _ _ _ => Effect.isTidy)
  rw [h0]
  exact ThreadPaths.isTidy_empty

theorem Run.isTidy {s₀ : Session} {log : List Step} (h0 : s₀.IsNew) (h : Run s₀ s log) : s.paths.IsTidy :=
  h.isTidy_of h0.paths

/-- The calls on a tracer come to the same whether they write at once or when they have passed. -/
theorem Session.performInPlace_eq (h : s.paths.IsTidy) (t : Thread) (c : Command) :
    s.performInPlace t c = s.perform t c := by
  cases c with
  | start n => exact congrArg (·.map Reply.done id) (call_start h)
  | endTracer n => exact congrArg (·.map Reply.done id) (call_endTracer h)
  | update n u => exact congrArg (·.map Reply.done id) (call_update u)
  | markFailed n className message => exact congrArg (·.map Reply.done id) (call_markFailed className message)
  | outgoingTag n form => exact congrArg (·.map Reply.tag id) (call_outgoingTag form)
  | setIncomingTag n tag => exact congrArg (·.map Reply.done id) (call_setIncomingTag tag)
  | _ => rfl

end CallPath
