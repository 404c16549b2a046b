import CallPath.Proofs.InPlace
/-!
# Sessions that share the store of their threads

A session was given a table of paths of its own. Threads know nothing of such tables: each thread has
one store for the paths of all sessions, and every look at a path goes through that store, where it
makes an entry if one is needed and removes any entry that is left empty. Here the operations that look
at paths are written for such a store. What a session sees of it (`PathStore.of`) are the paths it
would have had for itself, and an operation does to them what it does to these; the paths of the other
sessions are not touched (`Shared.perform_shows`).
-/

namespace CallPath

namespace Table

variable {κ ν : Type} [DecidableEq κ]

theorem insertIn_of_findIn {k : κ} {v : ν} {bs : List (κ × ν)} (h : findIn k bs = some v) :
    insertIn k v bs = bs := by
  induction bs with
  | nil => cases h
  | cons b bs ih =>
    by_cases hb : k = b.1
    · rw [findIn, if_pos hb] at h
      rw [insertIn, if_pos hb, hb, ← Option.some.inj h]
    · rw [findIn, if_neg hb] at h
      rw [insertIn, if_neg hb, ih h]

theorem insert_of_get? {t : Table κ ν} {k : κ} {v : ν} (h : t.get? k = some v) : t.insert k v = t :=
  congrArg mk (insertIn_of_findIn h)

end Table

/-- Setting the path that a thread has changes nothing. -/
theorem ThreadPaths.IsTidy.set_get {ps : ThreadPaths} (h : ps.IsTidy) (t : Thread) : ps.set t (ps.get t) = ps := by
  unfold ThreadPaths.set ThreadPaths.get
  cases hp : ps.table.get? t with
  | none => simp [Table.erase_of_get? hp]
  | some p => simp [h t p hp, Table.insert_of_get? hp]

/-! ## Commands that leave the paths alone -/

/-- Whether a command is about the path of its thread. -/
def Command.looksAtPaths : Command → Bool
  | start _ | endTracer _ | leave .. | createLink | addAttribute .. | addAttributes .. => true
  | _ => false

namespace Session

variable {s : Session} {t : Thread} {n : NodeRef}

theorem attach_paths (failure : Failure) : (s.attach t n failure).paths = s.paths := by
  unfold attach
  split
  · rfl
  · rcases s.markFailed_cases t n failure.className failure.text with ⟨e, h⟩ | ⟨-, -, -, -, h⟩ <;> rw [h] <;> rfl

theorem outgoingTag_paths (form : TagForm) : (s.outgoingTag t n form).2.paths = s.paths := by
  rcases s.outgoingTag_cases t n form with ⟨e, h⟩ | ⟨-, -, -, h⟩ <;> rw [h] <;> rfl

theorem drop_paths (s : Session) (t : Thread) (n : NodeRef) : (s.drop t n).paths = s.paths := by
  rcases s.drop_cases t n with ⟨-, h⟩ | ⟨-, m, h⟩ | ⟨-, -, h⟩ | ⟨-, -, h | ⟨m, h⟩⟩ <;> rw [h] <;> rfl

theorem trace_paths (s : Session) (t : Thread) (id : TracerId) (op : Operation) (o : TraceOptions) :
    (s.trace t id op o).2.paths = s.paths := by
  cases hd : op.details with
  | error e =>
    unfold trace createFor
    rw [hd]
  | ok d =>
    obtain ⟨s', -, hs, ⟨-, h⟩ | ⟨e, -, h⟩⟩ := trace_cases (s := s) (t := t) id o hd <;> rw [h]
    · exact hs.paths
    · exact (drop_paths _ t _).trans hs.paths

theorem warnUnresolved_paths (ns : List NodeRef) : (ns.foldl warnUnresolved s).paths = s.paths := by
  induction ns generalizing s with
  | nil => rfl
  | cons n ns ih => exact ih

theorem resolve_paths (s : Session) (warnOfUnresolved : Bool) : (s.resolve warnOfUnresolved).2.paths = s.paths := by
  cases warnOfUnresolved with
  | false => rfl
  | true => exact warnUnresolved_paths _

theorem perform_paths {c : Command} (hp : c.looksAtPaths = false) (hc : s.Admits c) :
    (s.perform t c).2.paths = s.paths := by
  have target : ∀ {n}, c.target? = some n → n < s.forest.size := fun hn => (hc.1 _ hn).1
  cases c with
  | start | endTracer | leave | createLink | addAttribute | addAttributes => cases hp
  | trace id op o => exact trace_paths s t id op o
  | update n u => exact (update_effects u (target rfl)).2.paths
  | updateAll n us => exact (updateAll_effects us (target rfl)).2.paths
  | markFailed n className message => exact (markFailed_effects className message (target rfl)).2.paths
  | outgoingTag n form => exact outgoingTag_paths form
  | setIncomingTag n tag => exact (setIncomingTag_effects tag (target rfl)).2.paths
  | applyIncomingTags n tags => exact (applyIncomingTags_effects tags (target rfl)).2.paths
  | drop n => exact drop_paths s t n
  | resolve warnOfUnresolved => exact resolve_paths s warnOfUnresolved
  | _ => rfl

end Session

/-! ## The store -/

/-- The paths of all sessions, kept by the threads. -/
structure PathStore where
  table : Table (Thread × SessionRef) Path := {}
  deriving DecidableEq

namespace PathStore

/-- The entries of one session. -/
def entriesOf (r : SessionRef) (bs : List ((Thread × SessionRef) × Path)) : List (Thread × Path) :=
  bs.filterMap fun b => if b.1.2 = r then some (b.1.1, b.2) else none

/-- The paths of one session. -/
def of (ps : PathStore) (r : SessionRef) : ThreadPaths :=
  ⟨⟨entriesOf r ps.table.bindings⟩⟩

/-- The store with an entry for a thread and a session. -/
def enter (ps : PathStore) (t : Thread) (r : SessionRef) : PathStore :=
  if (ps.table.get? (t, r)).isSome then ps else ⟨ps.table.insert (t, r) {}⟩

/-- The store without the entry of a thread and a session, if it is empty. -/
def sweep (ps : PathStore) (t : Thread) (r : SessionRef) : PathStore :=
  if (ps.table.get? (t, r)).any (·.stack.isEmpty) then ⟨ps.table.erase (t, r)⟩ else ps

theorem entriesOf_cons (r : SessionRef) (t : Thread) (r' : SessionRef) (p : Path)
    (bs : List ((Thread × SessionRef) × Path)) :
    entriesOf r (((t, r'), p) :: bs) = if r' = r then (t, p) :: entriesOf r bs else entriesOf r bs := by
  by_cases h : r' = r <;> simp [entriesOf, h]

theorem entriesOf_insertIn (t : Thread) (r r' : SessionRef) (p : Path) (bs : List ((Thread × SessionRef) × Path)) :
    entriesOf r' (Table.insertIn (t, r) p bs) =
      if r' = r then Table.insertIn t p (entriesOf r' bs) else entriesOf r' bs := by
  induction bs with
  | nil => by_cases hr : r = r' <;> simp [Table.insertIn, entriesOf, hr, eq_comm]
  | cons b bs ih =>
    obtain ⟨⟨t', r''⟩, q⟩ := b
    show entriesOf r'
      (if (t, r) = (t', r'') then ((t, r), p) :: bs else ((t', r''), q) :: Table.insertIn (t, r) p bs) = _
    by_cases hk : (t, r) = (t', r'')
    · obtain ⟨rfl, rfl⟩ := Prod.mk.inj hk
      rw [if_pos rfl, entriesOf_cons, entriesOf_cons]
      by_cases hr : r = r' <;> simp [Table.insertIn, hr, eq_comm]
    · rw [if_neg hk, entriesOf_cons, ih, entriesOf_cons]
      by_cases hr : r'' = r'
      · subst hr
        by_cases hr' : r'' = r
        · have ht : t ≠ t' := fun ht => hk (by rw [ht, hr'])
          simp [Table.insertIn, hr', ht]
        · simp [hr']
      · simp [hr]

theorem entriesOf_filter (t : Thread) (r r' : SessionRef) (bs : List ((Thread × SessionRef) × Path)) :
    entriesOf r' (bs.filter fun b => b.1 ≠ (t, r)) =
      if r' = r then (entriesOf r' bs).filter fun b => b.1 ≠ t else entriesOf r' bs := by
  induction bs with
  | nil => simp [entriesOf]
  | cons b bs ih =>
    obtain ⟨⟨t', r''⟩, q⟩ := b
    by_cases hk : (t', r'') = (t, r)
    · obtain ⟨rfl, rfl⟩ := Prod.mk.inj hk
      rw [List.filter_cons_of_neg (by simp), ih, entriesOf_cons]
      by_cases hr : r'' = r' <;> simp [hr, eq_comm]
    · have hkeep : (((t', r''), q) :: bs).filter (fun b => b.1 ≠ (t, r)) =
          ((t', r''), q) :: bs.filter fun b => b.1 ≠ (t, r) := List.filter_cons_of_pos (decide_eq_true hk)
      rw [hkeep, entriesOf_cons, ih, entriesOf_cons]
      by_cases hr : r'' = r'
      · subst hr
        by_cases hr' : r'' = r
        · have ht : t' ≠ t := fun ht => hk (by rw [ht, hr'])
          simp [hr', ht]
        · simp [hr']
      · simp [hr]

variable (ps : PathStore) (t : Thread) (r r' : SessionRef) (p : Path)

theorem get?_of : (ps.of r).table.get? t = ps.table.get? (t, r) := by
  obtain ⟨⟨bs⟩⟩ := ps
  show Table.findIn t (entriesOf r bs) = Table.findIn (t, r) bs
  induction bs with
  | nil => rfl
  | cons b bs ih =>
    obtain ⟨⟨t', r'⟩, q⟩ := b
    rw [entriesOf_cons]
    by_cases hr : r' = r
    · subst hr
      by_cases ht : t = t' <;> simp [Table.findIn, ht, ih]
    · simp [Table.findIn, hr, Ne.symm hr, ih]

theorem of_insert : (⟨ps.table.insert (t, r) p⟩ : PathStore).of r' =
    if r' = r then ⟨(ps.of r').table.insert t p⟩ else ps.of r' := by
  unfold of Table.insert
  rw [entriesOf_insertIn]
  split <;> rfl

theorem of_erase : (⟨ps.table.erase (t, r)⟩ : PathStore).of r' =
    if r' = r then ⟨(ps.of r').table.erase t⟩ else ps.of r' := by
  unfold of Table.erase
  rw [entriesOf_filter]
  split <;> rfl

theorem of_enter : (ps.enter t r).of r' = if r' = r then (ps.of r').enter t else ps.of r' := by
  unfold enter ThreadPaths.enter ThreadPaths.contains
  rw [get?_of]
  by_cases hr : r' = r
  · subst hr
    by_cases h : (ps.table.get? (t, r')).isSome = true
    · simp [h]
    · simp [h, of_insert]
  · by_cases h : (ps.table.get? (t, r)).isSome = true <;> simp [h, hr, of_insert]

theorem of_sweep : (ps.sweep t r).of r' = if r' = r then (ps.of r').sweep t else ps.of r' := by
  unfold sweep ThreadPaths.sweep
  rw [get?_of]
  by_cases hr : r' = r
  · subst hr
    by_cases h : (ps.table.get? (t, r')).any (·.stack.isEmpty) = true
    · simp [h, of_erase]
    · simp [h]
  · by_cases h : (ps.table.get? (t, r)).any (·.stack.isEmpty) = true <;> simp [h, hr, of_erase]

/-- The stores differ at most in the entries of one session. -/
def SameBut (r : SessionRef) (ps ps' : PathStore) : Prop :=
  ∀ r', r' ≠ r → ps'.of r' = ps.of r'

/-- The entry of a thread, while steps on it last. -/
def entry (ps : PathStore) (t : Thread) (r : SessionRef) (create : Bool) : Option Path :=
  if create then some ((ps.of r).get t) else (ps.of r).table.get? t

/-- Runs steps on the path of a thread for a session, which has an entry at least while they last if
`create` is set. The steps are given the entry and leave one. -/
def withPath {γ : Type} (t : Thread) (r : SessionRef) (create : Bool) (steps : Option Path → γ × Option Path)
    (ps : PathStore) : γ × PathStore :=
  let ps := if create then ps.enter t r else ps
  let (c, path?) := steps (ps.table.get? (t, r))
  let ps := path?.elim ps fun p => ⟨ps.table.insert (t, r) p⟩
  (c, ps.sweep t r)

variable {γ : Type} (create : Bool) (steps : Option Path → γ × Option Path)

theorem get?_entered : (if create then ps.enter t r else ps).table.get? (t, r) = ps.entry t r create := by
  cases create with
  | false => exact (get?_of ps t r).symm
  | true =>
    show (ps.enter t r).table.get? (t, r) = some ((ps.of r).get t)
    rw [← get?_of, of_enter, if_pos rfl]
    exact ThreadPaths.get?_enter _ t

theorem withPath_fst : (ps.withPath t r create steps).1 = (steps (ps.entry t r create)).1 := by
  rw [← get?_entered]
  rfl

/-- An entry that is left as it was, or was made and left empty, does not show. -/
theorem of_withPath (h : (ps.of r).IsTidy) : (ps.withPath t r create steps).2.of r' =
    if r' = r then (steps (ps.entry t r create)).2.elim (ps.of r) ((ps.of r).set t) else ps.of r' := by
  rw [← get?_entered]
  unfold withPath
  dsimp only
  rw [of_sweep]
  by_cases hr : r' = r
  · subst hr
    cases (steps _).2 with
    | none =>
      cases create with
      | false => simpa using h.sweep_eq t
      | true => simpa [of_enter] using h.sweep_enter t
    | some p => cases create <;> simp [of_insert, of_enter]
  · cases (steps _).2 <;> cases create <;> simp [of_insert, of_enter, hr]

/-- Steps that change the store; what they changed stays when a later one fails. -/
abbrev Steps (α : Type) := ExceptT UsageError (StateM PathStore) α

/-- Steps that need an entry and leave it alone if they fail. -/
def onEntry (missing : UsageError) (steps : Path → Except UsageError (γ × Path)) (path? : Option Path) :
    Except UsageError γ × Option Path :=
  match path?.elim (.error missing) steps with
  | .ok (c, p) => (.ok c, some p)
  | .error e => (.error e, path?)

def withEntry (t : Thread) (r : SessionRef) (create : Bool) (missing : UsageError)
    (steps : Path → Except UsageError (γ × Path)) : Steps γ :=
  ExceptT.mk (withPath t r create (onEntry missing steps))

variable {ps t r}

theorem set_entry (h : (ps.of r).IsTidy) (he : ps.entry t r create = some p) : (ps.of r).set t p = ps.of r := by
  cases create with
  | true =>
    obtain rfl := Option.some.inj he
    exact h.set_get t
  | false =>
    have hget : (ps.of r).get t = p := by
      unfold ThreadPaths.get
      rw [show (ps.of r).table.get? t = some p from he]
      rfl
    exact hget ▸ h.set_get t

theorem withEntry_run (h : (ps.of r).IsTidy) (missing : UsageError) (steps : Path → Except UsageError (γ × Path)) :
    ∃ ps', ps.SameBut r ps' ∧ match (ps.entry t r create).elim (.error missing) steps with
      | .ok (c, p) => (withEntry t r create missing steps).run.run ps = (.ok c, ps') ∧ ps'.of r = (ps.of r).set t p
      | .error e => (withEntry t r create missing steps).run.run ps = (.error e, ps') ∧ ps'.of r = ps.of r := by
  have hfst := withPath_fst ps t r create (onEntry missing steps)
  have hof := fun r' => of_withPath ps t r r' create (onEntry missing steps) h
  refine ⟨((withEntry t r create missing steps).run.run ps).2, fun r' hr => (hof r').trans (if_neg hr), ?_⟩
  unfold onEntry at hfst hof
  cases hs : (ps.entry t r create).elim (.error missing) steps with
  | ok x =>
    rw [hs] at hfst hof
    exact ⟨Prod.ext hfst rfl, (hof r).trans (if_pos rfl)⟩
  | error e =>
    rw [hs] at hfst hof
    refine ⟨Prod.ext hfst rfl, ((hof r).trans (if_pos rfl)).trans ?_⟩
    cases he : ps.entry t r create with
    | none => rfl
    | some p => exact set_entry p create h he

end PathStore

open PathStore

/-- A session whose paths are in the store. -/
structure Shared where
  paths : PathStore
  session : Session

namespace Shared

/-- The session with the paths it sees. -/
def seen (x : Shared) (r : SessionRef) : Session :=
  { x.session with paths := x.paths.of r }

/-! ## The operations that look at paths -/

variable {α β : Type} (x : Shared) (r : SessionRef) (t : Thread) (n : NodeRef)

/-- Ends an operation on a tracer, as `Session.checked` does. -/
def checked (steps : Steps (α × Session)) : Except UsageError α × Shared :=
  match steps.run.run x.paths with
  | (.ok (a, session), paths) => (.ok a, { paths, session })
  | (.error e, paths) => (.error e, { paths, session := x.session.refused n e })

def start : Except UsageError Unit × Shared :=
  x.checked n do
    let s := x.session
    let node := s.forest.get n
    ofExcept (node.requireThread t)
    ofExcept (node.requireState .created)
    let forest ← withEntry t r true (.noActivePath node.label) fun path => path.push s.forest n
    return ((), { s with
      forest := forest.modify n (·.enter .started s.clock)
      clock := s.clock + 1
      agent := s.agent.start node.id
      metrics := s.metrics.recordStarted })

def endTracer : Except UsageError Unit × Shared :=
  x.checked n do
    let s := x.session
    let node := s.forest.get n
    ofExcept (node.requireThread t)
    match node.state with
    | .ended => return ((), s)
    | .created => return ((), s.finish n)
    | .started =>
      let unended := s.forest.unendedChildren n
      if unended ≠ [] then throw (.unendedChildren node.label unended)
      let root? ← withEntry t r false (.outOfOrderEnd node.label "nothing") fun path => path.pop s.forest n
      return ((), root?.elim (s.finish n) (s.finish n).completePath)

/-- The innermost tracer running on a thread. -/
def active? : Option NodeRef × Shared :=
  let (top?, paths) := x.paths.withPath t r false fun path? => (path?.bind Path.top?, path?)
  (top?, { x with paths })

def endAfterFailure : Shared :=
  match x.endTracer r t n with
  | (.ok (), x) => x
  | (.error e, x) =>
    { x with session := x.session.warn s!"Failed to end {x.session.forest.label n} after error: {e.message}" }

def leave (outcome : Outcome α) : ScopeResult α × Shared :=
  let attach (failure : Failure) : Shared := { x with session := (x.seen r).attach t n failure }
  match outcome with
  | .returned value =>
    match x.endTracer r t n with
    | (.ok (), x) => (.value value, x)
    | (.error e, x) => (.refused e, x)
  | .failed failure => (.failed failure, (attach failure).endAfterFailure r t n)
  | .interrupted text => (.interrupted text, (attach (Session.interruption text)).endAfterFailure r t n)

def createLink : InProcessLink × Shared :=
  let (top?, x) := x.active? r t
  (.ofTarget (top?.map x.session.forest.idOf), x)

def addAttribute (key : String) (value : AttributeValue) : Except UsageError Unit × Shared :=
  match requireNonBlank "key" key with
  | .error e => (.error e, x)
  | .ok () =>
    match x.active? r t with
    | (some n, x) =>
      (.ok (), { x with session := x.session.modifyNode n fun m =>
        { m with attributes := m.attributes ++ [(key, value)] } })
    | (none, x) =>
      let message := "No active tracer on this thread, dropping custom request attribute " ++ Text.quoted key
      (.ok (), { x with session := x.session.warn message })

def addEach (x : Shared) (r : SessionRef) (t : Thread) : List (String × AttributeValue) →
    Except UsageError Unit × Shared
  | [] => (.ok (), x)
  | (key, value) :: rest =>
    match x.addAttribute r t key value with
    | (.ok (), x) => x.addEach r t rest
    | refused => refused

/-- Runs a command on a thread. Only those above look at paths; the others leave the store alone. -/
def perform (x : Shared) (r : SessionRef) (t : Thread) : Command → Reply × Shared
  | .start n => (x.start r t n).map .done id
  | .endTracer n => (x.endTracer r t n).map .done id
  | .leave n outcome => (x.leave r t n outcome).map .left id
  | .createLink => (x.createLink r t).map .link id
  | .addAttribute key value => (x.addAttribute r t key value).map .done id
  | .addAttributes keys values count => (x.addEach r t ((keys.zip values).take count)).map .done id
  | c => ((x.seen r).perform t c).map id fun session => { x with session }

/-! ## What a session sees of them -/

/-- The operation of the session comes to what it sees of that on the store. -/
structure Shows (x : Shared) (r : SessionRef) (y : β × Shared) (z : β × Session) : Prop where
  result : z.1 = y.1
  session : z.2 = y.2.seen r
  others : x.paths.SameBut r y.2.paths

/-- The steps come to a result of the session, as far as it sees the store. -/
def ComesTo (steps : Steps (α × Session)) (ps : PathStore) (r : SessionRef)
    (result : Except UsageError (α × Session)) : Prop :=
  ∃ ps', ps.SameBut r ps' ∧ match result with
    | .ok (a, s) => ∃ s', steps.run.run ps = (.ok (a, s'), ps') ∧ s = { s' with paths := ps'.of r }
    | .error e => steps.run.run ps = (.error e, ps') ∧ ps'.of r = ps.of r

variable {x r t n}

theorem seen_of_paths {s : Session} (h : s.paths = x.paths.of r) :
    ({ x with session := s } : Shared).seen r = s := by
  unfold seen
  rw [← h]

theorem ComesTo.shows {steps : Steps (α × Session)} {result : Except UsageError (α × Session)}
    (h : ComesTo steps x.paths r result) : x.Shows r (x.checked n steps) ((x.seen r).checked n result) := by
  obtain ⟨ps', hothers, h⟩ := h
  unfold checked
  cases result with
  | ok a =>
    obtain ⟨s', hrun, hs⟩ := h
    rw [hrun]
    exact ⟨rfl, hs, hothers⟩
  | error e =>
    obtain ⟨hrun, hof⟩ := h
    rw [hrun]
    refine ⟨rfl, ?_, hothers⟩
    unfold seen
    rw [hof]
    rfl

/-- Steps that do not look at the store. -/
theorem ComesTo.pure {ps : PathStore} {a : α} {s s' : Session} (h : s' = { s with paths := ps.of r }) :
    ComesTo (Pure.pure (a, s)) ps r (.ok (a, s')) :=
  ⟨ps, fun _ _ => rfl, s, rfl, h⟩

theorem ComesTo.throw {ps : PathStore} (e : UsageError) :
    ComesTo (α := α) (MonadExcept.throw e) ps r (.error e) :=
  ⟨ps, fun _ _ => rfl, rfl, rfl⟩

/-- The same check on both sides. -/
theorem ComesTo.check {ps : PathStore} {c : Except UsageError β} {k : β → Steps (α × Session)}
    {f : β → Except UsageError (α × Session)} (h : ∀ b, ComesTo (k b) ps r (f b)) :
    ComesTo (ofExcept c >>= k) ps r (c >>= f) := by
  cases c with
  | error e => exact .throw e
  | ok b => exact h b

/-- The same steps on the path of a thread. What follows cannot fail any more. -/
theorem ComesTo.entry {γ : Type} {ps : PathStore} {create : Bool} {missing : UsageError}
    {steps : Path → Except UsageError (γ × Path)} {k : γ → α × Session} {f : γ × Path → α × Session}
    (h : (ps.of r).IsTidy)
    (hf : ∀ c p, f (c, p) = ((k c).1, { (k c).2 with paths := (ps.of r).set t p })) :
    ComesTo (withEntry t r create missing steps >>= fun c => Pure.pure (k c)) ps r
      ((ps.entry t r create).elim (.error missing) steps >>= fun y => .ok (f y)) := by
  obtain ⟨ps', hothers, hrun⟩ := withEntry_run (t := t) create h missing steps
  have hbind : (withEntry t r create missing steps >>= fun c => Pure.pure (k c)).run.run ps =
      match (withEntry t r create missing steps).run.run ps with
      | (.ok c, ps') => (.ok (k c), ps')
      | (.error e, ps') => (.error e, ps') := by
    unfold ExceptT.run StateT.run
    simp only [bind, ExceptT.bind, ExceptT.mk, StateT.bind, ExceptT.bindCont]
    cases withEntry t r create missing steps ps with
    | mk result s' => cases result <;> rfl
  refine ⟨ps', hothers, ?_⟩
  cases hs : (ps.entry t r create).elim (.error missing) steps with
  | error e =>
    rw [hs] at hrun
    rw [hrun.1] at hbind
    exact ⟨hbind, hrun.2⟩
  | ok c =>
    rw [hs] at hrun
    rw [hrun.1] at hbind
    refine ⟨(k c.1).2, hbind.trans ?_, ?_⟩
    · show (Except.ok (k c.1), ps') = (.ok ((f (c.1, c.2)).1, (k c.1).2), ps')
      rw [hf]
    · show (f (c.1, c.2)).2 = _
      rw [hf, hrun.2]

theorem start_shows (h : (x.paths.of r).IsTidy) : x.Shows r (x.start r t n) ((x.seen r).start t n) := by
  unfold start Session.start
  refine ComesTo.shows (.check fun _ => ?_)
  dsimp only [seen]
  -- The state is checked twice, here and by the push.
  rw [← Path.requireState_push, bind_assoc]
  refine .check fun _ => ?_
  exact ComesTo.entry (f := fun y : Forest × Path => ((), { x.session with
    forest := y.1.modify n (·.enter .started x.session.clock)
    clock := x.session.clock + 1
    paths := (x.paths.of r).set t y.2
    agent := x.session.agent.start (x.session.forest.idOf n)
    metrics := x.session.metrics.recordStarted })) h fun _ _ => rfl

theorem completePath_setPaths (s : Session) (ps : ThreadPaths) (root : NodeRef) :
    ({ s with paths := ps } : Session).completePath root = { s.completePath root with paths := ps } := by
  cases hl : s.settings.logCompletedPaths <;> cases hr : s.settings.retainCompletedPaths <;>
    simp [Session.completePath, hl, hr, Session.log]

theorem endTracer_shows (h : (x.paths.of r).IsTidy) : x.Shows r (x.endTracer r t n) ((x.seen r).endTracer t n) := by
  unfold endTracer Session.endTracer
  refine ComesTo.shows (.check fun _ => ?_)
  dsimp only [seen]
  cases (x.session.forest.get n).state with
  | ended => exact .pure rfl
  | created => exact .pure rfl
  | started =>
    dsimp only
    by_cases hu : x.session.forest.unendedChildren n = []
    · simp only [hu, ne_eq, not_true_eq_false, if_false]
      have hpop : ((x.paths.of r).get t).pop x.session.forest n = (x.paths.entry t r false).elim
          (.error (.outOfOrderEnd (x.session.forest.get n).label "nothing")) fun p => p.pop x.session.forest n := by
        show ((x.paths.of r).get t).pop _ _ = ((x.paths.of r).table.get? t).elim _ _
        unfold ThreadPaths.get
        cases (x.paths.of r).table.get? t <;> rfl
      rw [hpop]
      let popped (y : Option NodeRef × Path) : Session :=
        { x.session.finish n with paths := (x.paths.of r).set t y.2 }
      refine ComesTo.entry
        (f := fun y : Option NodeRef × Path => ((), y.1.elim (popped y) (popped y).completePath)) h ?_
      intro root? p
      cases root? with
      | none => rfl
      | some root => exact congrArg ((), ·) (completePath_setPaths _ _ root)
    · simp only [hu, ne_eq, not_false_eq_true, if_true]
      exact .throw _

/-! ## Looks at a path -/

theorem active?_shows (h : (x.paths.of r).IsTidy) :
    x.Shows r (x.active? r t) ((x.seen r).active? t, x.seen r) := by
  have hfst := withPath_fst x.paths t r false fun path? => (path?.bind Path.top?, path?)
  have hof := fun r' => of_withPath x.paths t r r' false (fun path? => (path?.bind Path.top?, path?)) h
  refine ⟨?_, ?_, fun r' hr => (hof r').trans (if_neg hr)⟩
  · refine Eq.trans ?_ hfst.symm
    show ((x.paths.of r).get t).top? = ((x.paths.of r).table.get? t).bind Path.top?
    unfold ThreadPaths.get
    cases (x.paths.of r).table.get? t <;> rfl
  · have hsame : (x.active? r t).2.paths.of r = x.paths.of r := by
      refine ((hof r).trans (if_pos rfl)).trans ?_
      cases he : x.paths.entry t r false with
      | none => rfl
      | some p => exact set_entry p false h he
    unfold seen
    rw [hsame]
    rfl

theorem createLink_shows (h : (x.paths.of r).IsTidy) :
    x.Shows r (x.createLink r t) ((x.seen r).createLink t, x.seen r) := by
  obtain ⟨hresult, hsession, hothers⟩ := active?_shows (t := t) h
  refine ⟨?_, hsession, hothers⟩
  show InProcessLink.ofTarget (((x.seen r).active? t).map (x.seen r).forest.idOf) = _
  rw [show (x.seen r).active? t = (x.active? r t).1 from hresult]
  rfl

theorem addAttribute_shows (h : (x.paths.of r).IsTidy) (key : String) (value : AttributeValue) :
    x.Shows r (x.addAttribute r t key value) ((x.seen r).addAttribute t key value) := by
  unfold addAttribute Session.addAttribute
  cases requireNonBlank "key" key with
  | error e => exact ⟨rfl, rfl, fun _ _ => rfl⟩
  | ok _ =>
    have ha := active?_shows (t := t) h
    cases hy : x.active? r t with
    | mk top? y =>
      rw [hy] at ha
      have htop : (x.seen r).active? t = top? := ha.result
      have hseen : x.seen r = y.seen r := ha.session
      dsimp only
      rw [htop, hseen]
      cases top? with
      | some n => exact ⟨rfl, rfl, ha.others⟩
      | none => exact ⟨rfl, rfl, ha.others⟩

/-- Attributes leave the paths alone. -/
theorem addAttribute_paths (h : (x.paths.of r).IsTidy) (key : String) (value : AttributeValue) :
    (x.addAttribute r t key value).2.paths.of r = x.paths.of r := by
  have hs := (addAttribute_shows (t := t) h key value).session
  have hp : ((x.seen r).addAttribute t key value).2.paths = x.paths.of r := by
    rcases (x.seen r).addAttribute_cases t key value with ⟨e, h⟩ | ⟨-, n, -, h⟩ | ⟨-, -, m, h⟩ <;> rw [h] <;> rfl
  rw [← hp, hs]
  rfl

theorem addEach_shows (pairs : List (String × AttributeValue)) (h : (x.paths.of r).IsTidy) :
    x.Shows r (x.addEach r t pairs) ((x.seen r).addEach t pairs) := by
  induction pairs generalizing x with
  | nil => exact ⟨rfl, rfl, fun _ _ => rfl⟩
  | cons p pairs ih =>
    obtain ⟨key, value⟩ := p
    have ha := addAttribute_shows (t := t) h key value
    have hp := addAttribute_paths (t := t) h key value
    unfold addEach Session.addEach
    cases hy : x.addAttribute r t key value with
    | mk result y =>
      cases hz : (x.seen r).addAttribute t key value with
      | mk result' s =>
        rw [hy] at ha hp
        rw [hz] at ha
        obtain rfl : result' = result := ha.result
        obtain rfl : s = y.seen r := ha.session
        cases result' with
        | error e => exact ha
        | ok _ =>
          obtain ⟨hresult, hsession, hothers⟩ := ih (x := y) (by rw [hp]; exact h)
          exact ⟨hresult, hsession, fun r' hr => (hothers r' hr).trans (ha.others r' hr)⟩

/-! ## Scopes -/

theorem endAfterFailure_shows (h : (x.paths.of r).IsTidy) :
    x.Shows r ((), x.endAfterFailure r t n) ((), (x.seen r).endAfterFailure t n) := by
  have he := endTracer_shows (t := t) (n := n) h
  unfold endAfterFailure Session.endAfterFailure
  cases hy : x.endTracer r t n with
  | mk result y =>
    cases hz : (x.seen r).endTracer t n with
    | mk result' s =>
      rw [hy, hz] at he
      obtain rfl : result' = result := he.result
      obtain rfl : s = y.seen r := he.session
      cases result' with
      | ok _ => exact ⟨rfl, rfl, he.others⟩
      | error e => exact ⟨rfl, rfl, he.others⟩

theorem leave_shows (h : (x.paths.of r).IsTidy) (outcome : Outcome α) :
    x.Shows r (x.leave r t n outcome) ((x.seen r).leave t n outcome) := by
  have failing : ∀ (result : ScopeResult α) (failure : Failure), x.Shows r
      (result, ({ x with session := (x.seen r).attach t n failure } : Shared).endAfterFailure r t n)
      (result, ((x.seen r).attach t n failure).endAfterFailure t n) := fun result failure => by
    have hattach := seen_of_paths (x := x) (r := r) (s := (x.seen r).attach t n failure) (Session.attach_paths failure)
    have he := endAfterFailure_shows (x := { x with session := (x.seen r).attach t n failure }) (t := t) (n := n) h
    rw [hattach] at he
    exact ⟨rfl, he.session, he.others⟩
  cases outcome with
  | failed failure => exact failing _ failure
  | interrupted text => exact failing _ _
  | returned value =>
    have he := endTracer_shows (t := t) (n := n) h
    unfold leave Session.leave
    dsimp only
    cases hy : x.endTracer r t n with
    | mk result y =>
      cases hz : (x.seen r).endTracer t n with
      | mk result' s =>
        rw [hy, hz] at he
        obtain rfl : result' = result := he.result
        obtain rfl : s = y.seen r := he.session
        cases result' with
        | ok _ => exact ⟨rfl, rfl, he.others⟩
        | error e => exact ⟨rfl, rfl, he.others⟩

theorem perform_rest {c : Command} (hc : c.looksAtPaths = false) :
    x.perform r t c = ((x.seen r).perform t c).map id fun session => { x with session } := by
  cases c with
  | start | endTracer | leave | createLink | addAttribute | addAttributes => cases hc
  | _ => rfl

/-- What a session is asked, and what becomes of it, is what it would be with paths of its own. -/
theorem perform_shows (h : (x.paths.of r).IsTidy) {c : Command} (hc : (x.seen r).Admits c) :
    x.Shows r (x.perform r t c) ((x.seen r).perform t c) := by
  have map : ∀ {γ : Type} {y : γ × Shared} {z : γ × Session} (k : γ → Reply), x.Shows r y z →
      x.Shows r (y.map k id) (z.map k id) := fun k hyz => ⟨congrArg k hyz.result, hyz.session, hyz.others⟩
  cases hp : c.looksAtPaths with
  | false =>
    rw [perform_rest hp]
    exact ⟨rfl, (seen_of_paths (Session.perform_paths hp hc)).symm, fun _ _ => rfl⟩
  | true =>
    cases c with
    | start n => exact map _ (start_shows h)
    | endTracer n => exact map _ (endTracer_shows h)
    | leave n outcome => exact map _ (leave_shows h outcome)
    | createLink => exact map _ (createLink_shows h)
    | addAttribute key value => exact map _ (addAttribute_shows h key value)
    | addAttributes keys values count => exact map _ (addEach_shows _ h)
    | _ => cases hp

end Shared

end CallPath
