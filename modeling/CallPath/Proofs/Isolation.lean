import CallPath.Proofs.Protocol
import CallPath.Proofs.Refusals
import CallPath.Proofs.SharedPaths
/-!
# Sessions on the same threads

A `Process` has the sessions of an application and the store of its threads, where the paths of all
these sessions are. Whatever is asked of its sessions, and in whatever order, each session gives the
answers it would give, and comes to the state it would come to, if nothing were asked of the others
(`Process.isolated`). So far the sessions had paths of their own; `view` is the application as it then
is, and a process does what its view does.
-/

namespace CallPath

/-- Commands, each with its session and its thread. -/
abbrev Schedule := List (SessionRef × Thread × Command)

namespace Schedule

/-- The commands for one session. -/
def only (r : SessionRef) (cs : Schedule) : Schedule :=
  cs.filter fun c => c.1 = r

/-- What a session is asked. -/
def commands (cs : Schedule) : List (Thread × Command) :=
  cs.map Prod.snd

theorem only_cons_self (r : SessionRef) (t : Thread) (c : Command) (cs : Schedule) :
    only r ((r, t, c) :: cs) = (r, t, c) :: only r cs := by
  simp [only]

theorem only_cons_ne {r r' : SessionRef} (h : r' ≠ r) (t : Thread) (c : Command) (cs : Schedule) :
    only r ((r', t, c) :: cs) = only r cs := by
  simp [only, h]

theorem only_only (r : SessionRef) (cs : Schedule) : only r (only r cs) = only r cs := by
  simp [only]

end Schedule

namespace Application

/-- What the sessions answer to commands. -/
def replies (app : Application) : Schedule → List (SessionRef × Reply)
  | [] => []
  | (r, t, c) :: rest =>
    let (reply, app) := app.onSession r (·.perform t c)
    (r, reply) :: app.replies rest

theorem replies_cons (app : Application) (r : SessionRef) (t : Thread) (c : Command) (rest : Schedule) :
    app.replies ((r, t, c) :: rest) =
      (r, ((app.get r).perform t c).1) :: (app.onSession r (·.perform t c)).2.replies rest := rfl

theorem map_fst_replies (app : Application) (cs : Schedule) :
    (app.replies cs).map Prod.fst = cs.map Prod.fst := by
  induction cs generalizing app with
  | nil => rfl
  | cons c rest ih => rw [replies_cons, List.map_cons, List.map_cons, ih]

theorem filter_replies_only (app : Application) (r : SessionRef) (cs : Schedule) :
    (app.replies (cs.only r)).filter (·.1 = r) = app.replies (cs.only r) := by
  rw [List.filter_eq_self]
  intro x hx
  have hmem : x.1 ∈ (cs.only r).map Prod.fst := by
    rw [← map_fst_replies app]
    exact List.mem_map_of_mem hx
  obtain ⟨c, hc, hcx⟩ := List.mem_map.1 hmem
  rw [← hcx]
  exact (List.mem_filter.1 hc).2

theorem sessions_ext {app app' : Application} (hs : app'.sessions.size = app.sessions.size)
    (h : ∀ r < app.sessions.size, app'.get r = app.get r) : app'.sessions = app.sessions := by
  refine Array.ext hs fun r hr' hr => ?_
  have hget := h r hr
  simp only [get, Array.getD_eq_getD_getElem?, Array.getElem?_eq_getElem hr, Array.getElem?_eq_getElem hr'] at hget
  exact hget

end Application

/-- A process: the paths its threads keep, and an application whose sessions have their paths there. -/
structure Process where
  paths : PathStore
  app : Application

namespace Process

/-- A session on the store. -/
def shared (p : Process) (r : SessionRef) : Shared :=
  ⟨p.paths, p.app.get r⟩

/-- The application as its sessions see it. -/
def view (p : Process) : Application :=
  { p.app with sessions := p.app.sessions.mapIdx fun r s => { s with paths := p.paths.of r } }

/-- Asks a session something on a thread. -/
def perform (p : Process) (r : SessionRef) (t : Thread) (c : Command) : Reply × Process :=
  let (reply, x) := (p.shared r).perform r t c
  (reply, { paths := x.paths, app := p.app.set r x.session })

/-- The process after commands for its sessions. -/
def played (p : Process) : Schedule → Process
  | [] => p
  | (r, t, c) :: rest => (p.perform r t c).2.played rest

/-- What the sessions answer to commands. -/
def replies (p : Process) : Schedule → List (SessionRef × Reply)
  | [] => []
  | (r, t, c) :: rest =>
    let (reply, p) := p.perform r t c
    (r, reply) :: p.replies rest

/-! ## A process does what its view does -/

variable {p : Process} {r : SessionRef} {t : Thread} {c : Command} {cs : Schedule}

theorem size_view (p : Process) : p.view.sessions.size = p.app.sessions.size := by
  simp [view]

theorem get_view (p : Process) (hr : r < p.app.sessions.size) : p.view.get r = (p.shared r).seen r := by
  simp [Application.get, view, shared, Shared.seen, Array.getD_eq_getD_getElem?, Array.getElem?_eq_getElem hr]

theorem perform_view_of_tidy (htidy : (p.view.get r).paths.IsTidy) (hr : r < p.view.sessions.size)
    (hc : (p.view.get r).Admits c) :
    (p.perform r t c).1 = (p.view.onSession r (·.perform t c)).1 ∧
      (p.perform r t c).2.view = (p.view.onSession r (·.perform t c)).2 := by
  have hlt : r < p.app.sessions.size := by rwa [size_view] at hr
  have hget := get_view p hlt
  rw [hget] at hc htidy
  have hs := Shared.perform_shows (t := t) htidy hc
  rw [← hget] at hs
  refine ⟨hs.result.symm, ?_⟩
  have hsize : (p.perform r t c).2.view.sessions.size = (p.view.onSession r (·.perform t c)).2.sessions.size := by
    simp [size_view, perform, Application.onSession]
  have hsessions := Application.sessions_ext hsize fun r' hr' => by
    have hlt' : r' < p.app.sessions.size := by simpa [size_view, Application.onSession] using hr'
    rw [get_view _ (by simpa [perform] using hlt'), Application.get_onSession _ _ _ _ (by rwa [size_view])]
    show Shared.seen ⟨((p.shared r).perform r t c).2.paths,
      (p.app.set r ((p.shared r).perform r t c).2.session).get r'⟩ r' = _
    rw [Application.get_set _ _ _ _ hlt']
    by_cases he : r = r'
    · subst he
      rw [if_pos rfl, if_pos rfl]
      exact hs.session.symm
    · rw [if_neg he, if_neg he, get_view p hlt']
      unfold Shared.seen
      rw [hs.others r' (Ne.symm he)]
      rfl
  exact congrArg (fun sessions => { p.app with sessions }) hsessions

theorem perform_view (h : p.view.Reachable) (hr : r < p.view.sessions.size) (hc : (p.view.get r).Admits c) :
    (p.perform r t c).1 = (p.view.onSession r (·.perform t c)).1 ∧
      (p.perform r t c).2.view = (p.view.onSession r (·.perform t c)).2 :=
  perform_view_of_tidy (h.isTidy hr) hr hc

/-- Commands for the sessions of a process are commands for sessions with paths of their own. -/
theorem played_view (h : p.view.Reachable) (hc : p.view.AdmitsAll cs) :
    p.replies cs = p.view.replies cs ∧ (p.played cs).view = p.view.played cs := by
  induction cs generalizing p with
  | nil => exact ⟨rfl, rfl⟩
  | cons c rest ih =>
    obtain ⟨r, t, c⟩ := c
    obtain ⟨⟨hr, ha, hf⟩, hrest⟩ := hc
    obtain ⟨hreply, hview⟩ := perform_view (t := t) h hr ha
    have hnext := h.onSession r t c hr ha hf
    rw [← hview] at hnext hrest
    obtain ⟨hreplies, hplayed⟩ := ih hnext hrest
    rw [hview] at hreplies hplayed
    refine ⟨?_, hplayed⟩
    show (r, (p.perform r t c).1) :: (p.perform r t c).2.replies rest = _
    rw [hreply, hreplies, Application.replies_cons]
    rfl

end Process

/-! ## The commands of one session -/

namespace Application

variable {app app' : Application} {r : SessionRef}

theorem size_onSession {α : Type} (app : Application) (r : SessionRef) (operation : Session → α × Session) :
    (app.onSession r operation).2.sessions.size = app.sessions.size :=
  size_set app r _

/-- A session answers to its own commands, and comes to what they lead to. -/
theorem get_played (cs : Schedule) (hr : r < app.sessions.size) :
    (app.replies cs).filter (·.1 = r) = ((app.get r).play (cs.only r).commands).map (fun x => (r, x.reply)) ∧
      (app.played cs).get r = (app.get r).played (cs.only r).commands := by
  induction cs generalizing app with
  | nil => exact ⟨rfl, rfl⟩
  | cons c rest ih =>
    obtain ⟨r', t, c⟩ := c
    obtain ⟨hreplies, hplayed⟩ := @ih (app.onSession r' (·.perform t c)).2 (by rwa [size_onSession])
    rw [get_onSession _ _ _ _ hr] at hreplies hplayed
    by_cases he : r' = r
    · subst he
      rw [if_pos rfl] at hreplies hplayed
      rw [Schedule.only_cons_self, replies_cons, List.filter_cons_of_pos (by simp), hreplies]
      exact ⟨rfl, hplayed⟩
    · rw [if_neg he] at hreplies hplayed
      rw [Schedule.only_cons_ne he, replies_cons, List.filter_cons_of_neg (by simpa using he)]
      exact ⟨hreplies, hplayed⟩

/-- As `app`, with fewer tracers in the sessions but one. -/
structure Fewer (r : SessionRef) (app' app : Application) : Prop where
  size : app'.sessions.size = app.sessions.size
  same : app'.get r = app.get r
  ids : ∀ r' < app.sessions.size, ∀ id ∈ (app'.get r').forest.ids, id ∈ (app.get r').forest.ids

namespace Fewer

variable {r' : SessionRef} {t : Thread} {c : Command}

/-- Both follow a command for the one session. -/
theorem command (h : Fewer r app' app) (hr : r < app.sessions.size) (t : Thread) (c : Command) :
    Fewer r (app'.onSession r (·.perform t c)).2 (app.onSession r (·.perform t c)).2 := by
  refine ⟨by rw [size_onSession, size_onSession, h.size], ?_, ?_⟩
  · rw [get_onSession _ _ _ _ (h.size ▸ hr), get_onSession _ _ _ _ hr, if_pos rfl, if_pos rfl, h.same]
  · intro r'' hr'' id hid
    rw [size_onSession] at hr''
    rw [get_onSession _ _ _ _ (h.size ▸ hr'')] at hid
    rw [get_onSession _ _ _ _ hr'']
    split at hid
    · rename_i e
      rwa [if_pos e, ← h.same]
    · rename_i e
      rw [if_neg e]
      exact h.ids r'' hr'' id hid

/-- A command for another session, which makes no tracer disappear, is left out. -/
theorem skip (h : Fewer r app' app) (hr : r < app.sessions.size) (he : r' ≠ r) (ha : (app.get r').Admits c) :
    Fewer r app' (app.onSession r' (·.perform t c)).2 := by
  refine ⟨by rw [size_onSession, h.size], ?_, ?_⟩
  · rw [get_onSession _ _ _ _ hr, if_neg he, h.same]
  · intro r'' hr'' id hid
    rw [size_onSession] at hr''
    have hold := h.ids r'' hr'' id hid
    rw [get_onSession _ _ _ _ hr'']
    split
    · rename_i e
      subst e
      have hids := (Step.effects (x := ⟨app.get r', t, c⟩) ha).ids_eq
      show id ∈ (Step.after ⟨app.get r', t, c⟩).forest.ids
      rw [hids]
      exact List.mem_append_left _ hold
    · exact hold

theorem admitsAll {cs : Schedule} (h : Fewer r app' app) (hr : r < app.sessions.size) (hc : app.AdmitsAll cs) :
    app'.AdmitsAll (cs.only r) := by
  induction cs generalizing app app' with
  | nil => trivial
  | cons c rest ih =>
    obtain ⟨r', t, c⟩ := c
    obtain ⟨⟨hr', ha, hf⟩, hrest⟩ := hc
    have hsize : r < (app.onSession r' (·.perform t c)).2.sessions.size := by rwa [size_onSession]
    by_cases he : r' = r
    · subst he
      rw [Schedule.only_cons_self]
      refine ⟨⟨h.size ▸ hr, h.same ▸ ha, ?_⟩, ih (h.command hr t c) hsize hrest⟩
      intro id hid r'' hr'' hmem
      exact hf id hid r'' (h.size ▸ hr'') (h.ids r'' (h.size ▸ hr'') id hmem)
    · rw [Schedule.only_cons_ne he]
      exact ih (h.skip hr he ha) hsize hrest

end Fewer

end Application

namespace Process

/-- What the commands for the other sessions are to one session of a process: nothing. -/
structure Isolated (p : Process) (cs : Schedule) (r : SessionRef) : Prop where
  /-- Without the others, what the session is asked can be asked as before. -/
  admitted : p.view.AdmitsAll (cs.only r)
  /-- It gives the same answers. -/
  replies : (p.replies cs).filter (·.1 = r) = p.replies (cs.only r)
  /-- It comes to the same nodes, paths, archive, counters and events, and so does its agent. -/
  session : (p.played cs).view.get r = (p.played (cs.only r)).view.get r
  /-- Neither does it matter that the paths of all sessions are in one store. -/
  separate : p.replies cs = p.view.replies cs ∧ (p.played cs).view = p.view.played cs

theorem isolated {p : Process} {cs : Schedule} {r : SessionRef} (h : p.view.Reachable) (hc : p.view.AdmitsAll cs)
    (hr : r < p.view.sessions.size) : p.Isolated cs r := by
  have hfewer : Application.Fewer r p.view p.view := ⟨rfl, rfl, fun _ _ _ hid => hid⟩
  have honly := hfewer.admitsAll hr hc
  obtain ⟨hreplies, hview⟩ := played_view h hc
  obtain ⟨hreplies', hview'⟩ := played_view h honly
  obtain ⟨hr1, hg1⟩ := Application.get_played cs hr
  obtain ⟨hr2, hg2⟩ := Application.get_played (cs.only r) hr
  rw [Schedule.only_only] at hr2 hg2
  refine ⟨honly, ?_, ?_, hreplies, hview⟩
  · rw [hreplies, hreplies', hr1, ← hr2, Application.filter_replies_only]
  · rw [hview, hview', hg1, hg2]

/-- Two sessions that record, beside the one that is always there. -/
def twoSessions : Process where
  paths := {}
  app := ({} : Application).acted [.newSession "first" (.recording {}) {}, .newSession "second" (.recording {}) {}]

/-- Tracers of both sessions run on one thread and end in the wrong order, one of them linked to a
tracer of the other session. -/
def crossedSchedule : Schedule :=
  let service := Details.customService ⟨"method", "service"⟩
  [(1, ⟨"a"⟩, .create (.ofNat 1) service), (1, ⟨"a"⟩, .start 0), (1, ⟨"a"⟩, .outgoingTag 0 .bytes),
    (2, ⟨"a"⟩, .create (.ofNat 2) (.inProcessLink (some (.ofNat 1)))), (2, ⟨"a"⟩, .start 0),
    (1, ⟨"a"⟩, .create (.ofNat 3) service), (1, ⟨"a"⟩, .start 1), (2, ⟨"a"⟩, .addAttribute "key" (.string "value")),
    (2, ⟨"a"⟩, .create (.ofNat 4) service), (2, ⟨"a"⟩, .start 1), (1, ⟨"a"⟩, .endTracer 1), (2, ⟨"a"⟩, .endTracer 0),
    (1, ⟨"a"⟩, .endTracer 0), (2, ⟨"a"⟩, .resolve true), (2, ⟨"a"⟩, .endTracer 1), (2, ⟨"a"⟩, .endTracer 0),
    (1, ⟨"a"⟩, .createLink), (2, ⟨"a"⟩, .resolve true), (2, ⟨"a"⟩, .drain)]

theorem isolated_crossedSchedule :
    twoSessions.Isolated crossedSchedule 1 ∧
      (((twoSessions.played crossedSchedule).view.get 1).archive.roots,
        ((twoSessions.played crossedSchedule).view.get 2).metrics.usageErrors,
        (twoSessions.played crossedSchedule).paths) = ([0], 1, {}) := by
  have hview : twoSessions.view =
      ({} : Application).acted [.newSession "first" (.recording {}) {}, .newSession "second" (.recording {}) {}] := by
    decide +kernel
  have hreach : twoSessions.view.Reachable := hview ▸ Application.Reachable.init.acted _ (by decide +kernel)
  exact ⟨Process.isolated hreach (by decide +kernel) (by decide +kernel), by decide +kernel⟩

end Process

end CallPath
