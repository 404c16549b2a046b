import CallPath.Proofs.Conversation
import CallPath.Proofs.InPlace
/-!
# Fields one by one

Details are the values of the fields that can be set (`Details.read`) and the rest (`Details.bare`). An update
goes to its own field and to no other part, and whether it is accepted is between its field and the kind
(`Update.isLocal`). So the fields do not know of each other: what becomes of a field depends on the updates of
that field alone, and updates may change places as long as those of one field stay in order
(`Details.fieldwise`).
-/

namespace CallPath

/-! ## Reading a field -/

/-- What a field holds. -/
inductive FieldValue where
  | pairs (ps : List (String × String))
  | text (t : Option String)
  | status (code : Option UInt16)
  | count (n : Option UInt64)
  deriving DecidableEq, Repr

/-- A list gets longer, and any other value gives way to the new one. -/
def FieldValue.put : FieldValue → FieldValue → FieldValue
  | pairs ps, pairs qs => pairs (ps ++ qs)
  | _, v => v

/-- Whether the field holds a list. -/
def Field.isList : Field → Bool
  | requestHeader | responseHeader | parameter => true
  | _ => false

/-- What tracers of a kind answer to an update of a field. -/
def Kind.answer (k : Kind) (f : Field) : Except UsageError Unit :=
  if f ∈ k.fields then .ok () else .error (.unsupportedField k f)

namespace Details

/-- What a field holds, if the kind has it. -/
def read : Details → Field → Option FieldValue
  | incomingRemoteCall c, .protocolName | outgoingRemoteCall c, .protocolName => some (.text c.protocolName)
  | databaseRequest r, .returnedRowCount => some (.count r.returnedRowCount)
  | databaseRequest r, .roundTripCount => some (.count r.roundTripCount)
  | incomingWebRequest r, .requestHeader => some (.pairs r.requestHeaders)
  | incomingWebRequest r, .responseHeader => some (.pairs r.responseHeaders)
  | incomingWebRequest r, .parameter => some (.pairs r.parameters)
  | incomingWebRequest r, .remoteAddress => some (.text r.remoteAddress)
  | incomingWebRequest r, .statusCode => some (.status r.statusCode)
  | outgoingWebRequest r, .requestHeader => some (.pairs r.requestHeaders)
  | outgoingWebRequest r, .responseHeader => some (.pairs r.responseHeaders)
  | outgoingWebRequest r, .statusCode => some (.status r.statusCode)
  | outgoingMessage m, .vendorMessageId | incomingMessageProcess m, .vendorMessageId => some (.text m.vendorMessageId)
  | outgoingMessage m, .correlationId | incomingMessageProcess m, .correlationId => some (.text m.correlationId)
  | _, _ => none

/-- The details with nothing in any field that can be set. -/
def bare : Details → Details
  | incomingRemoteCall c => .incomingRemoteCall { c with protocolName := none }
  | outgoingRemoteCall c => .outgoingRemoteCall { c with protocolName := none }
  | databaseRequest r => .databaseRequest { r with returnedRowCount := none, roundTripCount := none }
  | incomingWebRequest r => .incomingWebRequest
    { r with requestHeaders := [], responseHeaders := [], parameters := [], remoteAddress := none, statusCode := none }
  | outgoingWebRequest r =>
    .outgoingWebRequest { r with requestHeaders := [], responseHeaders := [], statusCode := none }
  | outgoingMessage m => .outgoingMessage { m with vendorMessageId := none, correlationId := none }
  | incomingMessageProcess m => .incomingMessageProcess { m with vendorMessageId := none, correlationId := none }
  | d => d

variable {d d' : Details} {f : Field}

theorem kind_bare (d : Details) : d.bare.kind = d.kind := by
  cases d <;> rfl

theorem read_isSome_iff (d : Details) (f : Field) : (d.read f).isSome ↔ f ∈ d.kind.fields := by
  cases d <;> cases f <;> simp [read, kind, Kind.fields]

theorem isList_of_read {ps : List (String × String)} (h : d.read f = some (.pairs ps)) : f.isList = true := by
  cases d <;> cases f <;> simp [read, Field.isList] at h ⊢

theorem read_of_isList (h : f.isList = true) (hf : f ∈ d.kind.fields) : ∃ ps, d.read f = some (.pairs ps) := by
  cases d <;> cases f <;> simp [read, Field.isList, kind, Kind.fields] at h hf ⊢

/-- The fields and the rest are all there is. -/
theorem ext_read (hbare : d'.bare = d.bare) (hread : ∀ f, d'.read f = d.read f) : d' = d := by
  have hall : Field.all.map d'.read = Field.all.map d.read := List.map_congr_left fun f _ => hread f
  cases d <;> cases d' <;> simp only [bare, reduceCtorEq] at hbare
  case incomingMessageReceive.incomingMessageReceive | customService.customService | inProcessLink.inProcessLink =>
    exact hbare
  all_goals
    rename_i x y
    cases x
    cases y
    simp_all [Field.all, read]

end Details

/-! ## One update -/

namespace Update

/-- The value that the update brings. -/
def value : Update → FieldValue
  | protocolName t | remoteAddress t => .text t
  | requestHeader n v | responseHeader n v | parameter n v => .pairs [(n, v)]
  | statusCode c => .status (some c)
  | returnedRowCount n | roundTripCount n => .count (some n)
  | vendorMessageId i | correlationId i => .text (some i)

/-- The pair that the update brings to a list. -/
def pair? : Update → Option (String × String)
  | requestHeader n v | responseHeader n v | parameter n v => some (n, v)
  | _ => none

variable {u : Update} {d d' : Details}

theorem read_of_applied? (h : u.applied? d = some d') (f : Field) :
    d'.read f = if f = u.field then (d.read f).map (·.put u.value) else d.read f := by
  cases u <;> cases d <;> simp only [applied?, reduceCtorEq, Option.some.injEq] at h
  all_goals
    subst h
    cases f <;> rfl

theorem bare_of_applied? (h : u.applied? d = some d') : d'.bare = d.bare := by
  cases u <;> cases d <;> simp only [applied?, reduceCtorEq, Option.some.injEq] at h
  all_goals
    subst h
    rfl

theorem write_cases (u : Update) (d : Details) :
    (∃ d', u.field ∈ d.kind.fields ∧ u.applied? d = some d' ∧ u.write d = (.ok (), d')) ∨
      (u.field ∉ d.kind.fields ∧ u.write d = (.error (.unsupportedField d.kind u.field), d)) := by
  have hfield := u.applied?_isSome_iff d
  unfold write
  cases hd : u.applied? d with
  | some d' => exact .inl ⟨d', hfield.1 (by simp [hd]), rfl, rfl⟩
  | none => exact .inr ⟨fun h => by simpa [hd] using hfield.2 h, rfl⟩

theorem read_write (u : Update) (d : Details) (f : Field) :
    (u.write d).2.read f = if f = u.field then (d.read f).map (·.put u.value) else d.read f := by
  rcases u.write_cases d with ⟨d', -, hd, hw⟩ | ⟨hf, hw⟩
  · rw [hw]
    exact read_of_applied? hd f
  · rw [hw]
    split
    · rename_i h
      have hnone : d.read f = none := by
        rw [← Option.not_isSome_iff_eq_none, d.read_isSome_iff, h]
        exact hf
      rw [hnone]
      rfl
    · rfl

theorem bare_write (u : Update) (d : Details) : (u.write d).2.bare = d.bare := by
  rcases u.write_cases d with ⟨d', -, hd, hw⟩ | ⟨-, hw⟩
  · rw [hw]
    exact bare_of_applied? hd
  · rw [hw]

theorem kind_write (u : Update) (d : Details) : (u.write d).2.kind = d.kind := by
  rw [← Details.kind_bare, bare_write, Details.kind_bare]

/-- The kind and the field decide. -/
theorem write_answer (u : Update) (d : Details) : (u.write d).1 = d.kind.answer u.field := by
  unfold Kind.answer
  rcases u.write_cases d with ⟨d', hf, -, hw⟩ | ⟨hf, hw⟩
  · rw [hw, if_pos hf]
  · rw [hw, if_neg hf]

theorem pair?_isSome (u : Update) : u.pair?.isSome = u.field.isList := by
  cases u <;> rfl

theorem value_of_pair? {p : String × String} (h : u.pair? = some p) : u.value = .pairs [p] := by
  cases u <;> cases h <;> rfl

theorem put_value (h : u.pair? = none) (v : FieldValue) : v.put u.value = u.value := by
  cases u <;> cases h <;> cases v <;> rfl

/-- What an update does to details: the kind and the field decide whether it is accepted, and if it is, the field
is all that changes. -/
structure IsLocal (u : Update) (d : Details) : Prop where
  apply_eq : u.apply d = (u.write d).1.map fun _ => (u.write d).2
  answer : (u.write d).1 = d.kind.answer u.field
  refused : u.field ∉ d.kind.fields → (u.write d).2 = d
  kind : (u.write d).2.kind = d.kind
  bare : (u.write d).2.bare = d.bare
  others : ∀ f, f ≠ u.field → (u.write d).2.read f = d.read f
  /-- A pair goes to the end of its list. -/
  appended : ∀ p, u.pair? = some p → u.field ∈ d.kind.fields →
    ∃ ps, d.read u.field = some (.pairs ps) ∧ (u.write d).2.read u.field = some (.pairs (ps ++ [p]))
  overwritten : u.pair? = none → u.field ∈ d.kind.fields → (u.write d).2.read u.field = some u.value

theorem isLocal (u : Update) (d : Details) : u.IsLocal d where
  apply_eq := by
    unfold apply write
    cases u.applied? d <;> rfl
  answer := u.write_answer d
  refused h := by
    rcases u.write_cases d with ⟨d', hf, -⟩ | ⟨-, hw⟩
    · exact absurd hf h
    · rw [hw]
  kind := u.kind_write d
  bare := u.bare_write d
  others f hf := by rw [read_write, if_neg hf]
  appended p hp hf := by
    have hlist : u.field.isList = true := by rw [← pair?_isSome, hp, Option.isSome_some]
    obtain ⟨ps, hps⟩ := Details.read_of_isList hlist hf
    refine ⟨ps, hps, ?_⟩
    rw [read_write, if_pos rfl, hps, value_of_pair? hp]
    rfl
  overwritten hp hf := by
    obtain ⟨v, hv⟩ := Option.isSome_iff_exists.1 ((d.read_isSome_iff u.field).2 hf)
    rw [read_write, if_pos rfl, hv, Option.map_some, put_value hp]

end Update

/-! ## Updates in turn -/

namespace Details

/-- Tries updates in turn, whatever becomes of each: the answers, and the details that come of it. -/
def writeAll (d : Details) : List Update → List (Update × Except UsageError Unit) × Details
  | [] => ([], d)
  | u :: us =>
    let (answer, d) := u.write d
    let (answers, d) := d.writeAll us
    ((u, answer) :: answers, d)

variable {d : Details} {us vs : List Update} {f : Field}

theorem bare_writeAll (d : Details) (us : List Update) : (d.writeAll us).2.bare = d.bare := by
  induction us generalizing d with
  | nil => rfl
  | cons u us ih => exact (ih _).trans (u.bare_write d)

theorem kind_writeAll (d : Details) (us : List Update) : (d.writeAll us).2.kind = d.kind := by
  rw [← kind_bare, bare_writeAll, kind_bare]

/-- No answer depends on the updates before. -/
theorem answers_writeAll (d : Details) (us : List Update) :
    (d.writeAll us).1 = us.map fun u => (u, d.kind.answer u.field) := by
  induction us generalizing d with
  | nil => rfl
  | cons u us ih =>
    have hrest := ih (u.write d).2
    rw [u.kind_write] at hrest
    simp only [writeAll, List.map_cons, u.write_answer, hrest]

/-- What becomes of a field depends on the updates of that field. -/
theorem read_writeAll (d : Details) (us : List Update) (f : Field) : (d.writeAll us).2.read f =
    (d.read f).map fun v => ((us.filter (·.field = f)).map Update.value).foldl FieldValue.put v := by
  induction us generalizing d with
  | nil => simp [writeAll]
  | cons u us ih =>
    have hrest := ih (u.write d).2
    rw [u.read_write] at hrest
    refine hrest.trans ?_
    by_cases hf : f = u.field
    · rw [if_pos hf, List.filter_cons_of_pos (by simp [hf]), Option.map_map]
      rfl
    · rw [if_neg hf, List.filter_cons_of_neg (by simpa using Ne.symm hf)]

/-- Pairs come one after the other. -/
theorem foldl_put_pairs (h : ∀ u ∈ us, u.pair?.isSome = true) (ps : List (String × String)) :
    (us.map Update.value).foldl FieldValue.put (.pairs ps) = .pairs (ps ++ us.filterMap Update.pair?) := by
  induction us generalizing ps with
  | nil => simp
  | cons u us ih =>
    obtain ⟨hu, hus⟩ := List.forall_mem_cons.1 h
    obtain ⟨p, hp⟩ := Option.isSome_iff_exists.1 hu
    have hput : FieldValue.put (.pairs ps) u.value = .pairs (ps ++ [p]) := by
      rw [Update.value_of_pair? hp]
      rfl
    rw [List.map_cons, List.foldl_cons, hput, ih hus, List.filterMap_cons_some hp, List.append_assoc]
    rfl

/-- Of other values the last one stays. -/
theorem foldl_put_last (h : ∀ u ∈ us, u.pair? = none) (v : FieldValue) :
    (us.map Update.value).foldl FieldValue.put v = (us.getLast?.map Update.value).getD v := by
  induction us generalizing v with
  | nil => rfl
  | cons u us ih =>
    obtain ⟨hu, hus⟩ := List.forall_mem_cons.1 h
    rw [List.map_cons, List.foldl_cons, Update.put_value hu, ih hus, List.getLast?_cons]
    cases us.getLast? <;> rfl

/-- What comes of updates in turn, and in another order. -/
structure Fieldwise (d : Details) (us vs : List Update) : Prop where
  steps : ∀ pre u post, us = pre ++ u :: post → u.IsLocal (d.writeAll pre).2
  /-- The kind and the field decide, whatever came before. -/
  answers : (d.writeAll us).1 = us.map fun u => (u, d.kind.answer u.field)
  kind : (d.writeAll us).2.kind = d.kind
  bare : (d.writeAll us).2.bare = d.bare
  /-- A list gets all the pairs that are for it, in order. -/
  lists : ∀ f ps, d.read f = some (.pairs ps) →
    (d.writeAll us).2.read f = some (.pairs (ps ++ (us.filter (·.field = f)).filterMap Update.pair?))
  /-- Any other field has the last value that was for it, or what it had. -/
  last : ∀ f ∈ d.kind.fields, f.isList = false →
    (d.writeAll us).2.read f = ((us.filter (·.field = f)).getLast?.map Update.value).or (d.read f)
  /-- In the other order, every update of a field has the answer it had. -/
  sameAnswers : ∀ f, (d.writeAll vs).1.filter (·.1.field = f) = (d.writeAll us).1.filter (·.1.field = f)
  sameDetails : (d.writeAll vs).2 = (d.writeAll us).2

/-- Fields do not know of each other: each has what its own updates make of it, and the order in which updates of
different fields come does not matter. -/
theorem fieldwise (d : Details) (h : ∀ f, vs.filter (·.field = f) = us.filter (·.field = f)) :
    d.Fieldwise us vs where
  steps pre u post _ := u.isLocal _
  answers := d.answers_writeAll us
  kind := d.kind_writeAll us
  bare := d.bare_writeAll us
  lists f ps hps := by
    have hpairs : ∀ u ∈ us.filter (·.field = f), u.pair?.isSome = true := by
      intro u hu
      obtain rfl : u.field = f := by simpa using (List.mem_filter.1 hu).2
      rw [u.pair?_isSome]
      exact isList_of_read hps
    rw [read_writeAll, hps, Option.map_some, foldl_put_pairs hpairs]
  last f hf hlist := by
    have hnone : ∀ u ∈ us.filter (·.field = f), u.pair? = none := by
      intro u hu
      obtain rfl : u.field = f := by simpa using (List.mem_filter.1 hu).2
      rw [← Option.not_isSome_iff_eq_none, u.pair?_isSome, hlist]
      exact Bool.false_ne_true
    obtain ⟨v, hv⟩ := Option.isSome_iff_exists.1 ((d.read_isSome_iff f).2 hf)
    rw [read_writeAll, hv, Option.map_some, foldl_put_last hnone]
    cases (us.filter (·.field = f)).getLast? <;> rfl
  sameAnswers f := by
    rw [answers_writeAll, answers_writeAll, List.filter_map, List.filter_map]
    exact congrArg _ (h f)
  sameDetails := by
    refine ext_read ?_ fun f => ?_
    · rw [bare_writeAll, bare_writeAll]
    · rw [read_writeAll, read_writeAll, h f]

/-- A web request gets two headers, two status codes, and a field of another kind; a reordering tells them apart by
their fields. -/
theorem fieldwise_webRequest :
    let info : WebApplicationInfo := ⟨"host", "application", "/"⟩
    let d : Details := .incomingWebRequest ⟨info, "url", "GET", [("a", "0")], [], [], none, some 0⟩
    let us : List Update := [.statusCode 100, .requestHeader "b" "1", .protocolName (some "p"),
      .responseHeader "d" "3", .statusCode 200, .requestHeader "c" "2"]
    let vs : List Update := [.responseHeader "d" "3", .requestHeader "b" "1", .requestHeader "c" "2", .statusCode 100,
      .statusCode 200, .protocolName (some "p")]
    (∀ f, vs.filter (·.field = f) = us.filter (·.field = f)) ∧ d.Fieldwise us vs ∧
      (d.writeAll us).2 = .incomingWebRequest
        ⟨info, "url", "GET", [("a", "0"), ("b", "1"), ("c", "2")], [("d", "3")], [], none, some 200⟩ := by
  intro info d us vs
  have h : ∀ f, vs.filter (·.field = f) = us.filter (·.field = f) := by
    intro f
    cases f <;> rfl
  exact ⟨h, fieldwise d h, rfl⟩

end Details

end CallPath
