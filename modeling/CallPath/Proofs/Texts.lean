import CallPath.Proofs.Accounts
import CallPath.Proofs.Actions
import CallPath.Proofs.Stages
/-!
# Texts that say something

Some texts of a node must not be blank. They are checked at different places: by the constructors of
the details, by an update before it is applied, and by whoever attaches an error or an attribute; what
is then written is not checked again. A program that has its tracers made by `trace`, and so by those
constructors, never finds a blank one among them (`Application.nothingBlank`).
-/

namespace CallPath

/-- Some character of the text is not white space. -/
def Text.Says (s : String) : Prop :=
  ∃ c ∈ s.toList, Text.isBlank c = false

theorem Text.says_iff {s : String} : Text.Says s ↔ Text.allBlank s = false := by
  simp [Text.Says, Text.allBlank]

/-! ## The texts of a node -/

/-- Names and values alike. -/
def pairTexts (pairs : List (String × String)) : List String :=
  pairs.flatMap fun (name, value) => [name, value]

theorem pairTexts_snoc (pairs : List (String × String)) (name value : String) :
    pairTexts (pairs ++ [(name, value)]) = pairTexts pairs ++ [name, value] := by
  simp [pairTexts]

namespace Details

/-- The texts that a tracer cannot do without, and those of its headers and parameters, of the protocol
and of the remote address, if there are any. -/
def texts : Details → List String
  | incomingRemoteCall c | outgoingRemoteCall c => [c.method, c.service, c.endpoint] ++ c.protocolName.toList
  | databaseRequest r => [r.database.name, r.database.vendor, r.sql]
  | incomingWebRequest r =>
    [r.application.virtualHost, r.application.applicationId, r.application.contextRoot, r.url, r.method] ++
      pairTexts r.requestHeaders ++ pairTexts r.responseHeaders ++ pairTexts r.parameters ++ r.remoteAddress.toList
  | outgoingWebRequest r => [r.url, r.method] ++ pairTexts r.requestHeaders ++ pairTexts r.responseHeaders
  | outgoingMessage m | incomingMessageProcess m => [m.system.vendor, m.system.destinationName]
  | incomingMessageReceive s => [s.vendor, s.destinationName]
  | customService s => [s.method, s.service]
  | inProcessLink _ => []

end Details

/-- The texts that an update brings along. -/
def Update.texts : Update → List String
  | requestHeader name value | responseHeader name value | parameter name value => [name, value]
  | protocolName text | remoteAddress text => text.toList
  | statusCode _ | returnedRowCount _ | roundTripCount _ | vendorMessageId _ | correlationId _ => []

/-- The texts of a node that must not be blank. -/
def Node.texts (m : Node) : List String :=
  m.details.texts ++ m.attributes.map Prod.fst ++ m.error.toList.map ErrorInfo.className

/-! ## The checks -/

theorem requireNonBlank_eq_ok_iff {name value : String} {u : Unit} :
    requireNonBlank name value = .ok u ↔ Text.Says value :=
  requireNonBlank_eq_ok.trans Text.says_iff.symm

theorem DatabaseInfo.checked_eq_ok {i i' : DatabaseInfo} :
    i.checked = .ok i' ↔ Text.Says i.name ∧ Text.Says i.vendor ∧ i = i' := by
  simp [checked, create, bind_eq_ok, requireNonBlank_eq_ok_iff, pure, Except.pure]

theorem WebApplicationInfo.checked_eq_ok {i i' : WebApplicationInfo} : i.checked = .ok i' ↔
    Text.Says i.virtualHost ∧ Text.Says i.applicationId ∧ Text.Says i.contextRoot ∧ i = i' := by
  simp [checked, create, bind_eq_ok, requireNonBlank_eq_ok_iff, pure, Except.pure]

theorem MessagingSystemInfo.checked_eq_ok {i i' : MessagingSystemInfo} :
    i.checked = .ok i' ↔ Text.Says i.vendor ∧ Text.Says i.destinationName ∧ i = i' := by
  simp [checked, create, bind_eq_ok, requireNonBlank_eq_ok_iff, pure, Except.pure]

theorem Details.requireRemoteCall_eq_ok {method service endpoint : String} {u : Unit} :
    requireRemoteCall method service endpoint = .ok u ↔
      Text.Says method ∧ Text.Says service ∧ Text.Says endpoint := by
  simp [requireRemoteCall, bind_eq_ok, requireNonBlank_eq_ok_iff]

/-- Whatever the operation is, each text that its tracer cannot do without was looked at. -/
theorem Operation.says_of_details {op : Operation} {d : Details} (h : op.details = .ok d) :
    ∀ x ∈ d.texts, Text.Says x := by
  cases op with
  | incomingRemoteCall method service endpoint =>
    obtain ⟨_, hcall, hd⟩ := bind_eq_ok.1 h
    obtain ⟨hm, hs, he⟩ := Details.requireRemoteCall_eq_ok.1 hcall
    cases hd
    simp [Details.texts, hm, hs, he]
  | outgoingRemoteCall method service endpoint channel =>
    obtain ⟨_, hcall, hd⟩ := bind_eq_ok.1 h
    obtain ⟨hm, hs, he⟩ := Details.requireRemoteCall_eq_ok.1 hcall
    cases hd
    simp [Details.texts, hm, hs, he]
  | databaseRequest database sql =>
    obtain ⟨_, hinfo, hd⟩ := bind_eq_ok.1 h
    obtain ⟨hn, hv, rfl⟩ := DatabaseInfo.checked_eq_ok.1 hinfo
    obtain ⟨_, hs, hd⟩ := bind_eq_ok.1 hd
    cases hd
    simp [Details.texts, hn, hv, requireNonBlank_eq_ok_iff.1 hs]
  | incomingWebRequest application url method =>
    obtain ⟨_, hinfo, hd⟩ := bind_eq_ok.1 h
    obtain ⟨hh, hi, hr, rfl⟩ := WebApplicationInfo.checked_eq_ok.1 hinfo
    obtain ⟨_, hu, hd⟩ := bind_eq_ok.1 hd
    obtain ⟨_, hm, hd⟩ := bind_eq_ok.1 hd
    cases hd
    simp [Details.texts, pairTexts, hh, hi, hr, requireNonBlank_eq_ok_iff.1 hu, requireNonBlank_eq_ok_iff.1 hm]
  | outgoingWebRequest url method =>
    obtain ⟨_, hu, hd⟩ := bind_eq_ok.1 h
    obtain ⟨_, hm, hd⟩ := bind_eq_ok.1 hd
    cases hd
    simp [Details.texts, pairTexts, requireNonBlank_eq_ok_iff.1 hu, requireNonBlank_eq_ok_iff.1 hm]
  | outgoingMessage system | incomingMessageReceive system | incomingMessageProcess system =>
    obtain ⟨_, hinfo, hd⟩ := bind_eq_ok.1 h
    obtain ⟨hv, hn, rfl⟩ := MessagingSystemInfo.checked_eq_ok.1 hinfo
    cases hd
    simp [Details.texts, Details.newOutgoingMessage, Details.newIncomingMessageReceive,
      Details.newIncomingMessageProcess, hv, hn]
  | customService method service =>
    obtain ⟨_, hm, hd⟩ := bind_eq_ok.1 h
    obtain ⟨_, hs, hd⟩ := bind_eq_ok.1 hd
    cases hd
    simp [Details.texts, requireNonBlank_eq_ok_iff.1 hm, requireNonBlank_eq_ok_iff.1 hs]
  | inProcessLink link =>
    cases h
    simp [Details.texts]

/-- What an update brings along was looked at before the update. -/
theorem Update.says_of_validate {u : Update} (h : u.validate = .ok ()) : ∀ x ∈ u.texts, Text.Says x := by
  cases u with
  | requestHeader name value | responseHeader name value | parameter name value =>
    obtain ⟨_, hn, hv⟩ := bind_eq_ok.1 h
    simp [texts, requireNonBlank_eq_ok_iff.1 hn, requireNonBlank_eq_ok_iff.1 hv]
  | protocolName text | remoteAddress text =>
    cases text with
    | none => simp [texts]
    | some text => simpa [texts] using requireNonBlank_eq_ok_iff.1 h
  | _ => simp [texts]

/-- An update writes no other texts than those it brings along. -/
theorem Update.texts_of_apply {u : Update} {d d' : Details} (h : u.apply d = .ok d') {x : String}
    (hx : x ∈ d'.texts) : x ∈ d.texts ∨ x ∈ u.texts := by
  rw [apply_eq_ok] at h
  unfold applied? at h
  split at h
  case h_17 => cases h
  all_goals
    cases h
    simp only [Details.texts, Update.texts, pairTexts_snoc, List.mem_append] at hx ⊢
    grind

/-! ## Every session -/

namespace Session

/-- No text that must not be blank is. -/
def Says (s : Session) : Prop :=
  ∀ n < s.forest.size, ∀ x ∈ (s.forest.get n).texts, Text.Says x

variable {s s' : Session}

/-- The texts are the same. -/
theorem Says.of_texts (h : s.Says) (hsize : s'.forest.size = s.forest.size)
    (htexts : ∀ n, (s'.forest.get n).texts = (s.forest.get n).texts) : s'.Says := by
  intro n hn
  rw [htexts]
  exact h n (hsize ▸ hn)

/-- Of the texts of one node, those that are new say something. -/
theorem Says.modify (h : s.Says) {n : NodeRef} {g : Node → Node} (hf : s'.forest = s.forest.modify n g)
    (hg : ∀ x ∈ (g (s.forest.get n)).texts, x ∈ (s.forest.get n).texts ∨ Text.Says x) : s'.Says := by
  intro m hm x hx
  rw [hf, Forest.size_modify] at hm
  rw [hf, Forest.get_modify _ _ _ _ hm] at hx
  split at hx
  · rename_i e
    subst e
    exact (hg x hx).elim (h n hm x) id
  · exact h m hm x hx

end Session

theorem Session.Says.effect {t : Thread} {s s' : Session} {ms : List Mark} (h : s.Says) (he : Effect t s ms s')
    (hms : ms.flatMap Mark.births = []) : s'.Says := by
  -- What is neither a field nor an attribute nor an error has no texts.
  have other : ∀ {n : NodeRef} {g : Node → Node}, s'.forest = s.forest.modify n g →
      (∀ m, (g m).texts = m.texts) → s'.Says := fun hf hg => h.modify hf fun x hx => .inl (hg _ ▸ hx)
  cases he with
  | created id d _ => cases hms
  | updated n u d _ _ hv _ hd =>
    refine h.modify (n := n) rfl fun x hx => ?_
    simp only [Node.texts, List.mem_append] at hx ⊢
    rcases hx with (hx | hx) | hx
    · exact (Update.texts_of_apply hd hx).imp (fun hx => .inl (.inl hx)) (Update.says_of_validate hv x)
    · exact .inl (.inl (.inr hx))
    · exact .inl (.inr hx)
  | failed n className message _ _ hb _ _ =>
    refine h.modify (n := n) rfl fun x hx => ?_
    simp only [Node.texts, List.mem_append] at hx ⊢
    rcases hx with hx | hx
    · exact .inl (.inl hx)
    · obtain rfl : x = className := by simpa using hx
      exact .inr (Text.says_iff.2 hb)
  | attributed n key value hb _ =>
    refine h.modify (n := n) rfl fun x hx => ?_
    simp only [Node.texts, List.mem_append, List.map_append] at hx ⊢
    rcases hx with (hx | hx | hx) | hx
    · exact .inl (.inl (.inl hx))
    · exact .inl (.inl (.inr hx))
    · obtain rfl : x = key := by simpa using hx
      exact .inr (Text.says_iff.2 hb)
    · exact .inl (.inr hx)
  | begun n _ _ _ _ =>
    refine h.of_texts (by simp [Session.begun]) fun m => ?_
    exact Session.get_begun_same (p := Node.texts) (fun _ _ => rfl) (fun _ _ => rfl) s t n m
  | completed n _ _ _ _ => exact other (n := n) (Session.completePath_same _ n).1 fun _ => rfl
  | unwound n rest _ _ _ _ _ => exact other (n := n) rfl fun _ => rfl
  | finished n _ _ _ => exact other (n := n) rfl fun _ => rfl
  | discarded n _ _ _ => exact other (n := n) rfl fun _ => rfl
  | released n _ => exact other (n := n) rfl fun _ => rfl
  | tagged n tag _ _ _ _ => exact other (n := n) rfl fun _ => rfl
  | linked c p _ _ _ _ =>
    exact h.of_texts (Forest.size_resolve ..)
      (Forest.get_resolve_same (q := Node.texts) (fun _ _ => rfl) (fun _ _ => rfl) s.forest c p)
  | _ => exact h

theorem Session.Says.effects {t : Thread} {s s' : Session} {ms : List Mark} (hs : s.Says) (h : Effects t s ms s')
    (hms : ms.flatMap Mark.births = []) : s'.Says := by
  induction h with
  | nil => exact hs
  | cons he _ ih =>
    rw [List.flatMap_append, List.append_eq_nil_iff] at hms
    exact ih (hs.effect he hms.1) hms.2

/-- Whether the command creates a tracer with details that were not checked. -/
def Command.isUnchecked : Command → Bool
  | create .. => true
  | _ => false

theorem Session.Says.perform {s : Session} (h : s.Says) {t : Thread} {c : Command} (hc : s.Admits c)
    (hu : c.isUnchecked = false) : (s.perform t c).2.Says := by
  have hcases := Step.births_cases (x := ⟨s, t, c⟩) hc
  have heffects := Step.effects (x := ⟨s, t, c⟩) hc
  cases c with
  | create id d => cases hu
  | trace id op o =>
    cases hd : op.details with
    | error e =>
      have hnone : Session.perform s t (.trace id op o) = (.created (.error e), s) := by
        simp [Session.perform, trace, createFor, hd, Prod.map]
      rw [hnone]
      exact h
    | ok d =>
      refine Says.effects (fun n hn x hx => ?_) (trace_setUp_effects o hd) rfl
      rw [get_create] at hx
      split at hx
      · rename_i e
        exact Operation.says_of_details hd x (by simpa [Node.texts] using hx)
      · rename_i e
        have hlt : n < s.forest.size + 1 := by simpa using hn
        exact h n (Nat.lt_of_le_of_ne (Nat.le_of_lt_succ hlt) e) x hx
  | _ =>
    rcases hcases with ⟨-, hms⟩ | ⟨b, hb, -⟩
    · exact h.effects heffects hms
    · cases hb

theorem Session.Says.run {s₀ s : Session} {log : List Step} (h0 : s₀.Says) (h : Run s₀ s log)
    (hu : ∀ x ∈ log, x.command.isUnchecked = false) : s.Says := by
  induction h with
  | nil => exact h0
  | step t c _ hc ih =>
    simp only [List.mem_append, List.mem_singleton] at hu
    exact (ih fun x hx => hu x (.inl hx)).perform hc (hu _ (.inr rfl))

/-! ## Every application -/

/-- Whether the action creates a tracer with details that were not checked. -/
def Action.isUnchecked : Action → Bool
  | command _ _ c => c.isUnchecked
  | _ => false

namespace Application

theorem mem_stepsOf {app : Application} {r : SessionRef} {a : Action} {x : Step} (hx : x ∈ app.stepsOf r a)
    (hu : a.isUnchecked = false) : x.command.isUnchecked = false := by
  cases a with
  | command r' t c =>
    obtain ⟨-, hx⟩ := List.mem_ite_nil_right.1 hx
    obtain rfl := List.mem_singleton.1 hx
    exact hu
  | release =>
    obtain ⟨-, hx⟩ := List.mem_ite_nil_right.1 hx
    obtain rfl := List.mem_singleton.1 hx
    rfl
  | _ => cases hx

theorem mem_steps {as : List Action} {app : Application} {r : SessionRef} {x : Step} (hx : x ∈ app.steps r as)
    (hu : ∀ a ∈ as, a.isUnchecked = false) : x.command.isUnchecked = false := by
  induction as generalizing app with
  | nil => cases hx
  | cons a as ih =>
    rcases List.mem_append.1 hx with hx | hx
    · exact mem_stepsOf hx (hu a List.mem_cons_self)
    · exact ih hx fun a ha => hu a (List.mem_cons_of_mem _ ha)

/-- No text of a node that must not be blank is, whatever was done and refused. -/
theorem nothingBlank {as : List Action} (has : ({} : Application).AllowsAll as)
    (hu : ∀ a ∈ as, a.isUnchecked = false) :
    ∀ r < (({} : Application).acted as).sessions.size, ((({} : Application).acted as).get r).Says := by
  intro r hr
  obtain ⟨name, agent, settings, hrun⟩ := run_acted has hr
  have hnew : ({ name, agent, settings } : Session).Says := fun n hn => absurd hn (Nat.not_lt_zero n)
  exact hnew.run hrun fun x hx => mem_steps hx hu

/-- Blank texts are tried at every place, some of them along with texts that say something. -/
def blankActions : List Action :=
  let application : WebApplicationInfo := { virtualHost := "host", applicationId := "id", contextRoot := "/" }
  let commands : List Command := [.trace (.ofNat 1) (.databaseRequest ⟨"name", " ", {}⟩ "select") {},
    .trace (.ofNat 1) (.incomingWebRequest application "url" "GET") { headers := { pairs := [("a", "b"), ("", "c")] } },
    .trace (.ofNat 2) (.incomingWebRequest application "url" "GET") { remoteAddress := some "address" }, .start 1,
    .updateAll 1 [.parameter "name" "value", .parameter "name" "\t", .parameter "other" "value"],
    .addAttributes ["key", "  ", "other"] [.integer 1, .integer 2, .integer 3] 3,
    .trace (.ofNat 3) (.customService "method" "service") {}, .start 2, .markFailed 2 "" "message",
    .leave 2 (.failed ⟨"\n", "text"⟩), .leave 1 (.interrupted none)]
  .acquireConfigured {} :: commands.map fun c => .command 1 ⟨"a"⟩ c

theorem nothingBlank_blankActions : let app := ({} : Application).acted blankActions
    (∀ r < app.sessions.size, (app.get r).Says) ∧ (app.get 1).forest.size = 3 ∧
      ((app.get 1).forest.get 1).texts =
        ["host", "id", "/", "url", "GET", "name", "value", "address", "key", "panic"] :=
  ⟨nothingBlank (by decide +kernel) (by decide), by decide +kernel⟩

end Application

end CallPath
