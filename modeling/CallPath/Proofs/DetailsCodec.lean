import CallPath.Forest.Traversal
import CallPath.Proofs.TagForms
import Mathlib.Data.List.Nodup
/-!
# Details are read as they were written

Details are written into an object of their own and, between the keys of its node, into every snapshot. They
are read from any object that has their fields and no key twice, in whatever order and whatever else it holds
(`Details.ofValue?_object`). In a snapshot the tag that names the kind, the fields of that kind and eleven keys
of the node meet in one object; no two of them are the same (`Snapshot.keysOf_nodup`).

A reader of details keeps the whole value before it looks at the tag, and what it keeps may nest 127 levels.
Details take three of them, but a snapshot takes two for each node on the way down. `detailsCodec` says which
snapshots are read, and that all the others would be but for that limit.
-/

namespace CallPath

open Json Encoding

/-- What is read item by item gives back the items. -/
theorem mapM_map_eq_some {α β γ : Type} {write : α → β} {read : β → Option γ} {same : α → γ} {l : List α}
    (h : ∀ a ∈ l, read (write a) = some (same a)) : (l.map write).mapM read = some (l.map same) := by
  induction l with
  | nil => rfl
  | cons a l ih =>
    obtain ⟨ha, hl⟩ := List.forall_mem_cons.1 h
    rw [List.map_cons, List.mapM_cons, ha, ih hl]
    rfl

/-! ## Texts of ids -/

theorem Encoding.Base32.digit?_digitChar : ∀ d < 32, Base32.digit? (Base32.digitChar d) = some d := by
  decide

theorem Encoding.Base32.decode?_encode (w n : Nat) : Base32.decode? (Base32.encode w n) = some (n % Nat.pow 32 w) := by
  have hread : ((digits 32 w n).map Base32.digitChar).mapM Base32.digit? = some ((digits 32 w n).map id) :=
    mapM_map_eq_some fun d hd => Base32.digit?_digitChar d (lt_of_mem_digits (by decide) hd)
  rw [Base32.decode?, Base32.encode, hread, List.map_id, Option.map_some, ofDigits_digits]

namespace TracerId

/-- The text of an id is read as that id, the reserved one included. -/
theorem ofText?_text (id : TracerId) : ofText? id.text = some id := by
  have hlen : (Base32.encode 26 id.value).length = 26 := by rw [Base32.encode, List.length_map, length_digits]
  have hwide : id.value < Nat.pow 32 26 := Nat.lt_trans id.isLt (by decide +kernel)
  have hnumber : ofNat id.value = id := by
    cases id with
    | mk value isLt => simp only [ofNat, Nat.mod_eq_of_lt isLt]
  rw [ofText?, text, String.toList_ofList, if_pos hlen, Base32.decode?_encode, Nat.mod_eq_of_lt hwide, Option.map_some,
    hnumber]

theorem ofJson?_toJson (id : TracerId) : ofJson? id.toJson = some id :=
  id.ofText?_text

end TracerId

/-! ## Values of fields -/

namespace Json

variable {α : Type} {read : Json → Option α} {write : α → Json}

@[simp] theorem required_some (v : Json) : required read (some v) = read v :=
  rfl

@[simp] theorem text?_string (s : String) : text? (.string s) = some s :=
  rfl

/-- An optional field is null or holds a value, which is never null itself. -/
theorem optional_elim (hread : ∀ a, read (write a) = some a) (hnull : ∀ a, write a ≠ .null) (o : Option α) :
    optional read (some (o.elim .null write)) = some o := by
  cases o with
  | none => rfl
  | some a =>
    have hsome : optional read (some (write a)) = (read (write a)).map some := by
      have hne := hnull a
      generalize write a = v at hne
      cases v <;> first | rfl | exact absurd rfl hne
    rw [Option.elim_some, hsome, hread, Option.map_some]

@[simp] theorem optional_ofOption (o : Option String) : optional text? (some (ofOption o)) = some o := by
  cases o <;> rfl

theorem nat?_integer {limit n : Nat} (h : n < limit) : nat? limit (.integer n) = some n := by
  have hlt : (0 : Int) ≤ n ∧ (n : Int) < limit := by omega
  rw [nat?, if_pos hlt, Int.toNat_natCast]

theorem word16?_integer (n : UInt16) : word16? (.integer n.toNat) = some n := by
  rw [word16?, nat?_integer n.toNat_lt_size, Option.map_some, UInt16.ofNat_toNat]

theorem word64?_integer (n : UInt64) : word64? (.integer n.toNat) = some n := by
  rw [word64?, nat?_integer n.toNat_lt_size, Option.map_some, UInt64.ofNat_toNat]

/-- A count is read as it was written, if a single number is. -/
theorem optional_ofCount {toNat : α → Nat} (hread : ∀ a, read (.integer (toNat a)) = some a) (o : Option α) :
    optional read (some (ofCount (o.map toNat))) = some o := by
  cases o with
  | none => rfl
  | some a =>
    have hsome : optional read (some (.integer (toNat a))) = (read (.integer (toNat a))).map some := rfl
    rw [Option.map_some, ofCount, hsome, hread, Option.map_some]

@[simp] theorem optional_word16? (o : Option UInt16) :
    optional word16? (some (ofCount (o.map UInt16.toNat))) = some o :=
  optional_ofCount word16?_integer o

@[simp] theorem optional_word64? (o : Option UInt64) :
    optional word64? (some (ofCount (o.map UInt64.toNat))) = some o :=
  optional_ofCount word64?_integer o

@[simp] theorem pairs?_ofPairs (pairs : List (String × String)) : pairs? (ofPairs pairs) = some pairs := by
  have hread : (pairs.map fun x => Json.array [.string x.1, .string x.2]).mapM (pair? text? text?) =
      some (pairs.map id) := mapM_map_eq_some fun _ _ => rfl
  rw [List.map_id] at hread
  exact hread

/-- The name of an element is read as that element, if no other one has it. -/
theorem enum?_string {kept : Bool} {all : List α} {key : α → String} (h : ∀ a, all.find? (key · = key a) = some a)
    (a : α) : enum? kept all key (.string (key a)) = some a :=
  h a

/-! ## Fields of an object -/

variable {fields written : List (String × Json)} {names : List String}

theorem filter_key_eq_nil {key : String} (h : key ∉ fields.map Prod.fst) : fields.filter (·.1 = key) = [] :=
  List.filter_eq_nil_iff.2 fun x hx e => h (List.mem_map.2 ⟨x, hx, of_decide_eq_true e⟩)

theorem field?_of_mem (hnodup : (fields.map Prod.fst).Nodup) {key : String} {v : Json} (h : (key, v) ∈ fields) :
    field? fields key = some (some v) := by
  obtain ⟨pre, post, rfl⟩ := List.append_of_mem h
  rw [List.map_append, List.map_cons, List.nodup_middle, List.nodup_cons, List.mem_append, not_or] at hnodup
  obtain ⟨⟨hpre, hpost⟩, -⟩ := hnodup
  have honly : (pre ++ (key, v) :: post).filter (·.1 = key) = [(key, v)] := by
    rw [List.filter_append, filter_key_eq_nil hpre, List.filter_cons_of_pos (by exact decide_eq_true rfl),
      filter_key_eq_nil hpost, List.nil_append]
  rw [field?, honly]

/-- A record finds its fields in an object that has them, whatever else the object has. -/
theorem record?_object (hnames : written.map Prod.fst = names) (hsub : written ⊆ fields)
    (hnodup : (fields.map Prod.fst).Nodup) : record? names (.object fields) = some (written.map (some ·.2)) := by
  rw [record?, ← hnames]
  exact mapM_map_eq_some fun x hx => field?_of_mem hnodup (hsub hx)

/-- A record that is written on its own. -/
theorem record?_own (hnames : written.map Prod.fst = names) (hnodup : names.Nodup) :
    record? names (.object written) = some (written.map (some ·.2)) :=
  record?_object hnames (List.Subset.refl _) (hnames ▸ hnodup)

end Json

/-! ## Records -/

theorem ChannelType.find?_key (t : ChannelType) : all.find? (key · = key t) = some t := by
  cases t <;> decide

theorem DestinationType.find?_key (t : DestinationType) : all.find? (key · = key t) = some t := by
  cases t <;> decide

theorem Kind.find?_key (k : Kind) : all.find? (key · = key k) = some k := by
  cases k <;> decide

@[simp] theorem Channel.ofJson?_toJson (kept : Bool) (c : Channel) : ofJson? kept c.toJson = some c := by
  have hfields : record? ["channel_type", "endpoint"] c.toJson =
      some [some (.string c.type.key), some (ofOption c.endpoint)] := record?_own rfl (by decide)
  have htype : enum? kept ChannelType.all ChannelType.key (.string c.type.key) = some c.type :=
    enum?_string ChannelType.find?_key c.type
  simp [ofJson?, hfields, htype]

@[simp] theorem Channel.optional_toJson (o : Option Channel) :
    optional (ofJson? true) (some (o.elim .null toJson)) = some o :=
  optional_elim (ofJson?_toJson true) (fun _ => nofun) o

@[simp] theorem DatabaseInfo.ofJson?_toJson (kept : Bool) (d : DatabaseInfo) : ofJson? kept d.toJson = some d := by
  have hfields : record? ["name", "vendor", "channel"] d.toJson =
      some [some (.string d.name), some (.string d.vendor), some d.channel.toJson] := record?_own rfl (by decide)
  simp [ofJson?, hfields]

@[simp] theorem WebApplicationInfo.ofJson?_toJson (a : WebApplicationInfo) : ofJson? a.toJson = some a := by
  have hfields : record? ["virtual_host", "application_id", "context_root"] a.toJson =
      some [some (.string a.virtualHost), some (.string a.applicationId), some (.string a.contextRoot)] :=
    record?_own rfl (by decide)
  simp [ofJson?, hfields]

namespace MessagingSystemInfo

variable (m : MessagingSystemInfo) (kept : Bool)

theorem ofFields?_toFields : ofFields? kept (m.toFields.map (some ·.2)) = some m := by
  have htype : enum? kept DestinationType.all DestinationType.key (.string m.destinationType.key) =
      some m.destinationType := enum?_string DestinationType.find?_key m.destinationType
  simp [ofFields?, toFields, htype]

@[simp] theorem ofJson?_toJson : ofJson? kept m.toJson = some m := by
  have hfields : record? fieldNames m.toJson = some (m.toFields.map (some ·.2)) := record?_own rfl (by decide)
  rw [ofJson?, hfields]
  exact m.ofFields?_toFields kept

end MessagingSystemInfo

theorem RemoteCall.ofFields?_toFields (c : RemoteCall) : ofFields? (c.toFields.map (some ·.2)) = some c := by
  simp [ofFields?, toFields]

theorem DatabaseRequest.ofFields?_toFields (r : DatabaseRequest) :
    ofFields? (r.toFields.map (some ·.2)) = some r := by
  simp [ofFields?, toFields]

theorem IncomingWebRequest.ofFields?_toFields (r : IncomingWebRequest) :
    ofFields? (r.toFields.map (some ·.2)) = some r := by
  simp [ofFields?, toFields]

theorem OutgoingWebRequest.ofFields?_toFields (r : OutgoingWebRequest) :
    ofFields? (r.toFields.map (some ·.2)) = some r := by
  simp [ofFields?, toFields]

theorem Message.ofFields?_toFields (m : Message) : ofFields? (m.toFields.map (some ·.2)) = some m := by
  simp [ofFields?, toFields]

theorem CustomService.ofFields?_toFields (s : CustomService) : ofFields? (s.toFields.map (some ·.2)) = some s :=
  rfl

namespace Details

theorem map_fst_toFields (d : Details) : d.toFields.map Prod.fst = fieldNames d.kind := by
  cases d <;> rfl

/-- The values of the fields make up the details again. -/
theorem ofFields?_toFields (d : Details) : ofFields? d.kind (d.toFields.map (some ·.2)) = some d := by
  cases d with
  | incomingRemoteCall c | outgoingRemoteCall c => exact congrArg (Option.map _) c.ofFields?_toFields
  | databaseRequest r => exact congrArg (Option.map _) r.ofFields?_toFields
  | incomingWebRequest r => exact congrArg (Option.map _) r.ofFields?_toFields
  | outgoingWebRequest r => exact congrArg (Option.map _) r.ofFields?_toFields
  | outgoingMessage m | incomingMessageProcess m => exact congrArg (Option.map _) m.ofFields?_toFields
  | incomingMessageReceive m => exact congrArg (Option.map _) (m.ofFields?_toFields true)
  | customService s => exact congrArg (Option.map _) s.ofFields?_toFields
  | inProcessLink target =>
    exact congrArg (Option.map _) (optional_elim TracerId.ofJson?_toJson (fun _ => nofun) target)

/-- Reads details from a value of any depth, whatever else is in it. -/
def ofValue? : Json → Option Details
  | .object fields => do
    let kind ← required kindOf? (← field? fields "kind")
    ofFields? kind (← record? (fieldNames kind) (.object fields))
  | .array (tag :: items) => do
    let kind ← kindOf? tag
    ofFields? kind (← record? (fieldNames kind) (.array items))
  | _ => none

/-- The reader of details is this one for values that can be kept as a whole. -/
theorem ofJson?_eq (v : Json) : ofJson? v = if v.fits keptDepth then ofValue? v else none :=
  rfl

/-- Details are read from every object that has their fields, and no key twice. -/
theorem ofValue?_object {d : Details} {fields : List (String × Json)} (hsub : d.toTaggedFields ⊆ fields)
    (hnodup : (fields.map Prod.fst).Nodup) : ofValue? (.object fields) = some d := by
  obtain ⟨htag, hfields⟩ := List.cons_subset.1 hsub
  have hkind : required kindOf? (some (.string d.kind.key)) = some d.kind := Kind.find?_key d.kind
  simp only [ofValue?, field?_of_mem hnodup htag, record?_object d.map_fst_toFields hfields hnodup, hkind,
    Option.bind_eq_bind, Option.bind_some]
  exact d.ofFields?_toFields

end Details

/-! ## Depth -/

namespace Json

variable {depth : Nat}

@[simp] theorem fits_null : fits depth .null = true := by
  cases depth <;> rfl

@[simp] theorem fits_bool (b : Bool) : fits depth (.bool b) = true := by
  cases depth <;> rfl

@[simp] theorem fits_integer (n : Int) : fits depth (.integer n) = true := by
  cases depth <;> rfl

@[simp] theorem fits_float (bits : UInt64) : fits depth (.float bits) = true := by
  cases depth <;> rfl

@[simp] theorem fits_string (s : String) : fits depth (.string s) = true := by
  cases depth <;> rfl

theorem fits_array (items : List Json) :
    fits (depth + 1) (.array items) = true ↔ ∀ v ∈ items, v.fits depth = true := by
  rw [fits]
  induction items with
  | nil => simp [fitsItems]
  | cons v vs ih => simp [fitsItems, ih]

@[simp] theorem fits_array_pair (v w : Json) :
    fits (depth + 1) (.array [v, w]) = true ↔ v.fits depth = true ∧ w.fits depth = true := by
  simp [fits_array]

@[simp] theorem fits_array_map {α : Type} (write : α → Json) (l : List α) :
    fits (depth + 1) (.array (l.map write)) = true ↔ ∀ a ∈ l, (write a).fits depth = true := by
  rw [fits_array, List.forall_mem_map]

@[simp] theorem fits_object (fields : List (String × Json)) :
    fits (depth + 1) (.object fields) = true ↔ ∀ x ∈ fields, x.2.fits depth = true := by
  rw [fits]
  induction fields with
  | nil => simp [fitsFields]
  | cons x xs ih => simp [fitsFields, ih]

@[simp] theorem fits_ofOption (o : Option String) : fits depth (ofOption o) = true := by
  cases o <;> simp [ofOption]

@[simp] theorem fits_ofCount (o : Option Nat) : fits depth (ofCount o) = true := by
  cases o <;> simp [ofCount]

@[simp] theorem fits_ofPairs (pairs : List (String × String)) : fits (depth + 2) (ofPairs pairs) = true := by
  simp [ofPairs]

end Json

section

variable {depth : Nat}

@[simp] theorem TracerId.fits_toJson (id : TracerId) : id.toJson.fits depth = true := by
  simp [toJson]

@[simp] theorem Channel.fits_toJson (c : Channel) : c.toJson.fits (depth + 1) = true := by
  simp [toJson]

@[simp] theorem DatabaseInfo.fits_toJson (d : DatabaseInfo) : d.toJson.fits (depth + 2) = true := by
  simp [toJson]

@[simp] theorem WebApplicationInfo.fits_toJson (a : WebApplicationInfo) : a.toJson.fits (depth + 1) = true := by
  simp [toJson]

@[simp] theorem MessagingSystemInfo.fits_toJson (m : MessagingSystemInfo) : m.toJson.fits (depth + 2) = true := by
  simp [toJson, toFields]

@[simp] theorem ErrorInfo.fits_toJson (e : ErrorInfo) : e.toJson.fits (depth + 1) = true := by
  simp [toJson]

@[simp] theorem AttributeValue.fits_toJson (v : AttributeValue) : v.toJson.fits depth = true := by
  cases v with
  | integer n => simp [toJson]
  | float bits =>
    rw [toJson]
    split <;> simp
  | string s => simp [toJson]

/-- An optional part is null or fits as it does on its own. -/
@[simp] theorem Json.fits_elim {α : Type} {write : α → Json} (h : ∀ a, (write a).fits depth = true) (o : Option α) :
    (o.elim .null write).fits depth = true := by
  cases o <;> simp [h]

/-- A field of details nests at most two levels. -/
theorem Details.fits_of_mem {d : Details} {x : String × Json} (h : x ∈ d.toTaggedFields) :
    x.2.fits (depth + 2) = true := by
  revert x
  cases d <;>
    simp [toTaggedFields, toFields, RemoteCall.toFields, DatabaseRequest.toFields, IncomingWebRequest.toFields,
      OutgoingWebRequest.toFields, Message.toFields, MessagingSystemInfo.toFields, CustomService.toFields]

end

/-! ## Snapshots -/

namespace Snapshot

variable {c : NodeCopy} {children : List Snapshot}

theorem listToJson_eq : listToJson children = children.map toJson := by
  induction children with
  | nil => rfl
  | cons s rest ih => rw [listToJson, ih, List.map_cons]

/-- The keys of a node of each kind. -/
def keysOf (k : Kind) : List String :=
  ["id", "state", "kind"] ++ Details.fieldNames k ++
    ["error", "incoming_tag", "in_tag_resolved", "attributes", "created_at", "started_at", "ended_at", "children",
      "tag_linked"]

theorem keysOf_nodup (k : Kind) : (keysOf k).Nodup := by
  cases k <;> decide

theorem map_fst_copyFields (values : List Json) : (copyFields c values).map Prod.fst = keysOf c.details.kind := by
  rw [keysOf, ← c.details.map_fst_toFields]
  simp only [copyFields, Details.toTaggedFields, List.map_append, List.map_cons, List.map_nil, List.cons_append,
    List.nil_append]

theorem keys_toJson : (node c children).toJson.keys = keysOf c.details.kind := by
  rw [toJson, keys, map_fst_copyFields]

theorem toTaggedFields_subset (values : List Json) : c.details.toTaggedFields ⊆ copyFields c values := fun _ h =>
  List.mem_append_left _ (List.mem_append_right _ h)

theorem ofValue?_toJson : Details.ofValue? (node c children).toJson = some c.details := by
  rw [toJson]
  refine Details.ofValue?_object (toTaggedFields_subset _) ?_
  rw [map_fst_copyFields]
  exact keysOf_nodup _

mutual

/-- The number of nodes on the longest way down. -/
def height : Snapshot → Nat
  | .node _ children => listHeight children + 1

/-- The greatest height in a list. -/
def listHeight : List Snapshot → Nat
  | [] => 0
  | s :: rest => max (height s) (listHeight rest)

end

theorem listHeight_le {k : Nat} : listHeight children ≤ k ↔ ∀ s ∈ children, s.height ≤ k := by
  induction children with
  | nil => simp [listHeight]
  | cons s rest ih => rw [listHeight, Nat.max_le, ih, List.forall_mem_cons]

@[simp] theorem fits_timeMark {depth : Nat} (known : Bool) : (timeMark known).fits depth = true := by
  cases known <;> simp [timeMark]

theorem mem_copyFields_children (values : List Json) : ("children", .array values) ∈ copyFields c values := by
  simp [copyFields]

/-- A node takes two levels, and a third one for its own data. -/
theorem fits_node {depth : Nat} :
    (node c children).toJson.fits (depth + 3) = true ↔ ∀ s ∈ children, s.toJson.fits (depth + 1) = true := by
  rw [toJson, fits_object, listToJson_eq]
  constructor
  · intro h
    have hbelow := h _ (mem_copyFields_children _)
    rwa [fits_array_map] at hbelow
  · intro h x hx
    rw [copyFields, List.mem_append, List.mem_append] at hx
    rcases hx with (hx | hx) | hx
    · revert x
      simp
    · exact Details.fits_of_mem hx
    · revert x
      simpa using h

/-- Two levels for each node on the way down, and the third one at the end. -/
theorem fits_iff {k : Nat} {s : Snapshot} : s.toJson.fits (2 * k + 1) = true ↔ s.height ≤ k := by
  induction k generalizing s with
  | zero =>
    cases s with
    | node c children =>
      rw [toJson, fits_object, height]
      refine iff_of_false (fun h => ?_) (by omega)
      have hbelow := h _ (mem_copyFields_children _)
      cases hbelow
  | succ k ih =>
    cases s with
    | node c children =>
      have hnode : (node c children).toJson.fits (2 * k + 3) = true ↔
          ∀ s ∈ children, s.toJson.fits (2 * k + 1) = true := fits_node
      simp only [ih] at hnode
      rw [height, Nat.add_le_add_iff_right, listHeight_le]
      exact hnode

end Snapshot

namespace Forest

variable (f : Forest) (n : NodeRef)

theorem exists_snapshot_eq : ∃ children, f.snapshot n = .node (f.copyNode n) children := by
  unfold snapshot
  cases f.size with
  | zero => exact ⟨_, rfl⟩
  | succ depth => exact ⟨_, rfl⟩

/-- Every snapshot holds the details of its node. -/
theorem ofValue?_snapshot : Details.ofValue? (f.snapshot n).toJson = some (f.get n).details := by
  obtain ⟨children, h⟩ := f.exists_snapshot_eq n
  rw [h]
  exact Snapshot.ofValue?_toJson

theorem keys_snapshot_nodup : (f.snapshot n).toJson.keys.Nodup := by
  obtain ⟨children, h⟩ := f.exists_snapshot_eq n
  rw [h, Snapshot.keys_toJson]
  exact Snapshot.keysOf_nodup _

end Forest

/-! ## Reading back -/

/-- How details come back from what is written of them. -/
structure DetailsCodec : Prop where
  /-- From an object of their own, which has no key twice. -/
  own : ∀ d : Details, d.toJson.keys.Nodup ∧ Details.ofJson? d.toJson = some d
  /-- From any object that has their fields, in whatever order and among whatever others. -/
  among : ∀ (d : Details) (fields : List (String × Json)), d.toTaggedFields ⊆ fields → (fields.map Prod.fst).Nodup →
    Details.ofValue? (.object fields) = some d
  /-- From the object of a node, which has no key twice. -/
  node : ∀ (f : Forest) (n : NodeRef), (f.snapshot n).toJson.keys.Nodup ∧
    Details.ofValue? (f.snapshot n).toJson = some (f.get n).details
  /-- A reader that keeps the value first stops at nodes with more than 62 levels of nodes below them. -/
  kept : ∀ (f : Forest) (n : NodeRef), Details.ofJson? (f.snapshot n).toJson =
    if (f.snapshot n).height ≤ 63 then some (f.get n).details else none

theorem Details.keys_toJson_nodup (d : Details) : d.toJson.keys.Nodup := by
  have hkeys : d.toJson.keys = "kind" :: fieldNames d.kind := congrArg (List.cons _) d.map_fst_toFields
  rw [hkeys]
  cases d.kind <;> decide

/-- Details survive being written, on their own and among the keys of a node. -/
theorem detailsCodec : DetailsCodec where
  own d := by
    refine ⟨d.keys_toJson_nodup, ?_⟩
    have hfits : d.toJson.fits keptDepth = true := (fits_object _).2 fun _ hx => Details.fits_of_mem hx
    rw [Details.ofJson?_eq, if_pos hfits]
    exact Details.ofValue?_object (List.Subset.refl _) d.keys_toJson_nodup
  among _ _ hsub hnodup := Details.ofValue?_object hsub hnodup
  node f n := ⟨f.keys_snapshot_nodup n, f.ofValue?_snapshot n⟩
  kept f n := by
    have hfits : (f.snapshot n).toJson.fits keptDepth = true ↔ (f.snapshot n).height ≤ 63 :=
      Snapshot.fits_iff (k := 63)
    simp only [Details.ofJson?_eq, hfits, f.ofValue?_snapshot]

/-- Calls of which each is nested in the one before. -/
def nestedCalls (count : Nat) : Forest :=
  ⟨((List.range count).map fun i =>
    { id := .ofNat (i + 1)
      owner := ⟨"a"⟩
      details := .outgoingRemoteCall { method := "method", service := "service", endpoint := "endpoint" }
      children := if i + 1 < count then [(.child, i + 1)] else [] }).toArray⟩

/-- The fields of a request, the kind last, with keys between them that are not read. -/
def scatteredFields : List (String × Json) :=
  [("sql", .string "select"), ("id", .null), ("round_trip_count", .integer 3), ("returned_row_count", .null),
    ("children", .unreadable), ("database", DatabaseInfo.toJson ⟨"name", "vendor", { endpoint := some "" }⟩),
    ("kind", .string "database_request")]

theorem detailsCodec_nestedCalls :
    (Details.ofJson? ((nestedCalls 64).snapshot 0).toJson = none ∧
      Details.ofJson? ((nestedCalls 64).snapshot 1).toJson = some ((nestedCalls 64).get 1).details ∧
      Details.ofValue? ((nestedCalls 64).snapshot 0).toJson = some ((nestedCalls 64).get 0).details) ∧
    let request : DatabaseRequest :=
      { database := ⟨"name", "vendor", { endpoint := some "" }⟩, sql := "select", roundTripCount := some 3 }
    (Details.databaseRequest request).toTaggedFields ⊆ scatteredFields ∧ (scatteredFields.map Prod.fst).Nodup ∧
      Details.ofValue? (.object scatteredFields) = some (.databaseRequest request) := by
  refine ⟨⟨?_, ?_, (detailsCodec.node _ 0).2⟩, ?_⟩
  · exact (detailsCodec.kept _ 0).trans (if_neg (by decide +kernel))
  · exact (detailsCodec.kept _ 1).trans (if_pos (by decide +kernel))
  · intro request
    have hsub : (Details.databaseRequest request).toTaggedFields ⊆ scatteredFields := by
      simp [request, scatteredFields, Details.toTaggedFields, Details.toFields, DatabaseRequest.toFields, Details.kind,
        Kind.key, ofCount]
    exact ⟨hsub, by decide, detailsCodec.among _ _ hsub (by decide)⟩

end CallPath
