import CallPath.Details.Json
import CallPath.Json.Text
import CallPath.Proofs.TagForms
/-!
# Ids from outside

An id comes in as a number, in a tag or a link, or in a JSON text. The readers of numbers, tags and links
refuse the reserved id. A JSON text is not refused: there are six spellings of the reserved id, for of the 130 bits
of an id's text two are dropped. What was read from one of them is no id that a tag or a link can carry
(`Inlet.carried`).
-/

namespace CallPath

open Encoding

/-! ## The spellings of the reserved id -/

namespace Encoding

theorem ofDigits_lt {b : Nat} {ds : List Nat} (hb : 0 < b) (h : ∀ d ∈ ds, d < b) :
    ofDigits b ds < Nat.pow b ds.length := by
  rw [← digits_ofDigits h, ofDigits_digits, digits_ofDigits h]
  exact Nat.mod_lt _ (Nat.pow_pos hb)

namespace Base32

theorem digit?_eq_some {c : Char} {d : Nat} (h : digit? c = some d) : c.toUpper = digitChar d ∧ d < 32 := by
  obtain ⟨hlt, hc, -⟩ := List.idxOf?_eq_some_iff.1 h
  refine ⟨?_, hlt⟩
  rw [digitChar, List.getD_eq_getElem?_getD, List.getElem?_eq_getElem hlt, hc]
  rfl

/-- The digits of a text, up to the case of its letters. -/
theorem map_toUpper_of_mapM {cs : List Char} {ds : List Nat} (h : cs.mapM digit? = some ds) :
    cs.map Char.toUpper = ds.map digitChar ∧ ∀ d ∈ ds, d < 32 := by
  induction cs generalizing ds with
  | nil =>
    cases h
    exact ⟨rfl, nofun⟩
  | cons c cs ih =>
    simp only [List.mapM_cons, Option.bind_eq_bind, Option.bind_eq_some_iff, Option.pure_def, Option.some.injEq] at h
    obtain ⟨d, hd, ds, hds, rfl⟩ := h
    obtain ⟨hc, hlt⟩ := digit?_eq_some hd
    obtain ⟨hcs, hlts⟩ := ih hds
    exact ⟨by simp [hc, hcs], List.forall_mem_cons.2 ⟨hlt, hlts⟩⟩

/-- A letter in lower case comes back from its upper case, and no other character changes. -/
theorem eq_or_eq_toLower {c u : Char} (h : c.toUpper = u) : c = u ∨ c = u.toLower := by
  have letters : ∀ i : Fin 26, Char.ofNat (97 + i) = (Char.ofNat (97 + i)).toUpper.toLower := by decide
  by_cases hc : 97 ≤ c.toNat ∧ c.toNat ≤ 122
  · have hi := letters ⟨c.toNat - 97, by omega⟩
    dsimp only at hi
    rw [Nat.add_sub_cancel' hc.1, Char.ofNat_toNat, h] at hi
    exact .inr hi
  · have hsame : c.toUpper = c := dif_neg hc
    exact .inl (hsame.symm.trans h)

theorem eq_zeros {cs : List Char} {w : Nat} (h : cs.map Char.toUpper = List.replicate w '0') :
    cs = List.replicate w '0' := by
  obtain ⟨hlen, hzero⟩ := List.eq_replicate_iff.1 h
  refine List.eq_replicate_iff.2 ⟨by simpa using hlen, fun c hc => ?_⟩
  exact (eq_or_eq_toLower (hzero _ (List.mem_map_of_mem hc))).elim id id

end Base32

end Encoding

namespace TracerId

/-- The reserved id. -/
def nil : TracerId :=
  ofNat 0

/-- The characters that stand for a digit of which only bits remain that are zero. -/
def nilInitials : List Char :=
  ['0', '8', 'G', 'g', 'R', 'r']

/-- The texts that stand for the reserved id. -/
def nilTexts : List String :=
  nilInitials.map fun c => String.ofList (c :: List.replicate 25 '0')

theorem isIssued_iff {id : TracerId} : id.IsIssued ↔ id ≠ nil := by
  have hnil : nil.value = 0 := rfl
  obtain ⟨value, _⟩ := id
  rw [IsIssued, Ne, Ne, mk.injEq, hnil]

/-- The first digit is dropped but for its last three bits, and all others are zero. -/
theorem digits_of_nil {ds : List Nat} (hlen : ds.length = 26) (hlt : ∀ d ∈ ds, d < 32)
    (h : ofNat (ofDigits 32 ds) = nil) : ∃ d ∈ [0, 8, 16, 24], ds = d :: List.replicate 25 0 := by
  have hmod : ofDigits 32 ds % Nat.pow 2 128 = 0 := congrArg value h
  have hbound := ofDigits_lt (by decide) hlt
  rw [hlen] at hbound
  have hds := digits_ofDigits hlt
  rw [hlen] at hds
  -- The number is one of four multiples, and the digits are those of that number.
  obtain ⟨k, hk⟩ := Nat.dvd_of_mod_eq_zero hmod
  have hk4 : k < 4 := by
    by_contra hk4
    have hle : Nat.pow 2 128 * 4 ≤ Nat.pow 2 128 * k := Nat.mul_le_mul_left _ (by omega)
    have htop : Nat.pow 2 128 * 4 = Nat.pow 32 26 := by decide +kernel
    omega
  rw [← hds, hk]
  have all : ∀ k < 4, ∃ d ∈ [0, 8, 16, 24], digits 32 26 (Nat.pow 2 128 * k) = d :: List.replicate 25 0 := by
    decide +kernel
  exact all k hk4

theorem mem_nilInitials {c : Char} {d : Nat} (hd : d ∈ [0, 8, 16, 24]) (hc : c.toUpper = Base32.digitChar d) :
    c ∈ nilInitials := by
  have all : ∀ d ∈ [0, 8, 16, 24],
      Base32.digitChar d ∈ nilInitials ∧ (Base32.digitChar d).toLower ∈ nilInitials := by decide
  rcases Base32.eq_or_eq_toLower hc with rfl | rfl
  · exact (all d hd).1
  · exact (all d hd).2

theorem ofText?_eq_nil_iff {s : String} : ofText? s = some nil ↔ s ∈ nilTexts := by
  constructor
  · intro h
    unfold ofText? at h
    split at h
    · rename_i hlen
      obtain ⟨_, hdecode, hnil⟩ := Option.map_eq_some_iff.1 h
      obtain ⟨ds, hds, rfl⟩ := Option.map_eq_some_iff.1 hdecode
      obtain ⟨hupper, hlt⟩ := Base32.map_toUpper_of_mapM hds
      have hlength := congrArg List.length hupper
      rw [List.length_map, List.length_map, hlen] at hlength
      obtain ⟨d, hd, rfl⟩ := digits_of_nil hlength.symm hlt hnil
      obtain ⟨c, cs, hcs, hc, hzeros⟩ := List.map_eq_cons_iff.1 hupper
      rw [List.map_replicate] at hzeros
      refine List.mem_map.2 ⟨c, mem_nilInitials hd hc, ?_⟩
      rw [← Base32.eq_zeros hzeros, ← hcs, String.ofList_toList]
    · cases h
  · have all : ∀ s ∈ nilTexts, ofText? s = some nil := by decide +kernel
    exact all s

theorem isIssued_of_ofNat? {n : Nat} {id : TracerId} (h : ofNat? n = some id) : id.IsIssued := by
  unfold ofNat? at h
  split at h
  · rename_i hn
    cases h
    exact Nat.ne_of_gt hn.1
  · cases h

theorem isIssued_of_ofBytes? {data : List UInt8} {id : TracerId} (h : ofBytes? data = some id) : id.IsIssued := by
  unfold ofBytes? at h
  split at h
  · exact isIssued_of_ofNat? h
  · cases h

end TracerId

theorem Tag.isIssued_of_decodeString {text : String} {id : TracerId} (h : decodeString text = some id) :
    id.IsIssued := by
  obtain ⟨data, -, h⟩ := Option.bind_eq_some_iff.1 h
  exact TracerId.isIssued_of_ofBytes? h

theorem InProcessLink.isIssued_of_target {l : InProcessLink} {id : TracerId} (h : l.target = some id) :
    id.IsIssued := by
  unfold target at h
  split at h
  · cases h
  · split at h
    · exact TracerId.isIssued_of_ofBytes? h
    · cases h

/-! ## Details -/

theorem Json.of_optional {α : Type} {read : Json → Option α} {v : Option Json} {a : α}
    (h : optional read v = some (some a)) : ∃ j, v = some j ∧ read j = some a := by
  unfold optional at h
  split at h
  · cases h
  · cases h
  · rename_i j _
    obtain ⟨_, hj, e⟩ := Option.map_eq_some_iff.1 h
    exact ⟨j, rfl, hj.trans e⟩

theorem TracerId.of_ofJson? {v : Json} {id : TracerId} (h : ofJson? v = some id) :
    ∃ s, v = .string s ∧ ofText? s = some id := by
  unfold ofJson? at h
  split at h
  · exact ⟨_, rfl, h⟩
  · cases h

namespace Details

variable {d : Details} {id : TracerId}

/-- Details name a tracer only if they are those of a link with the text of its id. -/
theorem of_ofFields? {k : Kind} {vs : List (Option Json)} (h : ofFields? k vs = some d) (hd : d.linkTarget = some id) :
    k = .inProcessLink ∧ ∃ s, vs = [some (.string s)] ∧ TracerId.ofText? s = some id := by
  unfold ofFields? at h
  split at h
  case h_10 target =>
    obtain ⟨_, htarget, rfl⟩ := Option.map_eq_some_iff.1 h
    obtain rfl : _ = some id := hd
    obtain ⟨v, rfl, hv⟩ := Json.of_optional htarget
    obtain ⟨s, rfl, hs⟩ := TracerId.of_ofJson? hv
    exact ⟨rfl, s, rfl, hs⟩
  case h_11 => cases h
  all_goals
    obtain ⟨_, -, rfl⟩ := Option.map_eq_some_iff.1 h
    cases hd

/-- Where the text of the id stands in the value. -/
theorem of_ofJson? {v : Json} (h : ofJson? v = some d) (hd : d.linkTarget = some id) :
    ∃ s, TracerId.ofText? s = some id ∧
      ((∃ fields, v = .object fields ∧ Json.field? fields "target" = some (some (.string s))) ∨
        ∃ tag, v = .array [tag, .string s]) := by
  unfold ofJson? at h
  split at h
  · split at h
    · simp only [Option.bind_eq_bind, Option.bind_eq_some_iff] at h
      obtain ⟨_, -, k, -, vs, hvs, h⟩ := h
      obtain ⟨rfl, s, rfl, hs⟩ := of_ofFields? h hd
      refine ⟨s, hs, .inl ⟨_, rfl, ?_⟩⟩
      simpa [Json.record?, fieldNames, Option.bind_eq_some_iff] using hvs
    · simp only [Option.bind_eq_bind, Option.bind_eq_some_iff] at h
      obtain ⟨k, -, vs, hvs, h⟩ := h
      obtain ⟨rfl, s, rfl, hs⟩ := of_ofFields? h hd
      obtain ⟨-, hitems⟩ : _ ∧ _ := by simpa [Json.record?, fieldNames] using hvs
      exact ⟨s, hs, .inr ⟨_, by rw [hitems]⟩⟩
    · cases h
  · cases h

end Details

/-! ## Out and in again -/

/-- The bytes of an id are read as that id, unless it is the reserved one. -/
theorem Tag.decodeBytes_encodeBytes (id : TracerId) :
    decodeBytes (encodeBytes id) = if id.IsIssued then some id else none := by
  split
  · rename_i h
    exact TracerId.ofBytes?_toBytes h
  · rename_i h
    obtain rfl : id = .nil := by simpa [TracerId.isIssued_iff] using h
    decide +kernel

theorem Tag.decodeString_encodeString (id : TracerId) :
    decodeString (encodeString id) = decodeBytes (encodeBytes id) := by
  have htrim : (Text.trim (encodeString id)).toList = Base64.encode id.toBytes := by
    rw [Text.toList_trim, encodeString, String.toList_ofList]
    have hplain : ∀ c ∈ Base64.encode id.toBytes, Text.isBlank c = false := fun c hc =>
      (Base64.plain_of_mem_encode hc).2
    simpa using @Text.trimBlank_around [] _ [] rfl rfl hplain
  rw [decodeString, htrim, Base64.decode_encode, Option.bind_eq_bind, Option.bind_some, encodeBytes]

theorem InProcessLink.target_ofTarget_some (id : TracerId) :
    (ofTarget (some id)).target = Tag.decodeBytes (Tag.encodeBytes id) := by
  simp [ofTarget, target]

/-! ## Inlets -/

/-- Where an id comes in. -/
inductive Inlet where
  | number (n : Nat)
  | bytes (data : List UInt8)
  | string (text : String)
  | link (link : InProcessLink)
  /-- A JSON text of an id. -/
  | idJson (text : String)
  /-- A JSON text of details. -/
  | detailsJson (text : String)

namespace Inlet

/-- The id that comes in, if any. -/
def id? : Inlet → Option TracerId
  | .number n => TracerId.ofNat? n
  | .bytes data => Tag.decodeBytes data
  | .string text => Tag.decodeString text
  | .link l => l.target
  | .idJson text => Json.parse? text >>= TracerId.ofJson?
  | .detailsJson text => Json.parse? text >>= Details.ofJson? >>= Details.linkTarget

/-- The text of the id is in the JSON text. -/
inductive Spells : Inlet → String → Prop
  | id {text s : String} (h : Json.parse? text = some (.string s)) : Spells (.idJson text) s
  | field {text s : String} {fields : List (String × Json)} (h : Json.parse? text = some (.object fields))
      (hs : Json.field? fields "target" = some (some (.string s))) : Spells (.detailsJson text) s
  | item {text s : String} {tag : Json} (h : Json.parse? text = some (.array [tag, .string s])) :
      Spells (.detailsJson text) s

/-- What holds of an id that came in. -/
structure Carried (i : Inlet) (id : TracerId) : Prop where
  /-- A JSON text brings in the id that it spells. -/
  spelled : ∀ s, i.Spells s → TracerId.ofText? s = some id
  /-- Only a JSON text can bring in the reserved id. -/
  issued_iff : id.IsIssued ↔ ∀ s ∈ TracerId.nilTexts, ¬ i.Spells s
  bytes : Tag.decodeBytes (Tag.encodeBytes id) = if id.IsIssued then some id else none
  string : Tag.decodeString (Tag.encodeString id) = if id.IsIssued then some id else none
  link : (InProcessLink.ofTarget (some id)).target = if id.IsIssued then some id else none

variable {i : Inlet} {id : TracerId}

/-- A text spells one id at most. -/
theorem Spells.unique {s s' : String} (h : i.Spells s) (h' : i.Spells s') : s = s' := by
  cases h with
  | id h =>
    cases h' with
    | id h' =>
      cases h.symm.trans h'
      rfl
  | field h hs =>
    cases h' with
    | field h' hs' =>
      cases h.symm.trans h'
      cases hs.symm.trans hs'
      rfl
    | item h' => cases h.symm.trans h'
  | item h =>
    cases h' with
    | field h' _ => cases h.symm.trans h'
    | item h' =>
      cases h.symm.trans h'
      rfl

/-- What is not spelled came in by a reader that refuses the reserved id. -/
theorem spells_or_isIssued (h : i.id? = some id) :
    (∃ s, i.Spells s ∧ TracerId.ofText? s = some id) ∨ id.IsIssued ∧ ∀ s, ¬ i.Spells s := by
  cases i with
  | number n => exact .inr ⟨TracerId.isIssued_of_ofNat? h, by rintro s ⟨⟩⟩
  | bytes data => exact .inr ⟨TracerId.isIssued_of_ofBytes? h, by rintro s ⟨⟩⟩
  | string text => exact .inr ⟨Tag.isIssued_of_decodeString h, by rintro s ⟨⟩⟩
  | link l => exact .inr ⟨InProcessLink.isIssued_of_target h, by rintro s ⟨⟩⟩
  | idJson text =>
    obtain ⟨v, hv, h⟩ := Option.bind_eq_some_iff.1 h
    obtain ⟨s, rfl, hs⟩ := TracerId.of_ofJson? h
    exact .inl ⟨s, .id hv, hs⟩
  | detailsJson text =>
    obtain ⟨d, h, hd⟩ := Option.bind_eq_some_iff.1 h
    obtain ⟨v, hv, h⟩ := Option.bind_eq_some_iff.1 h
    obtain ⟨s, hs, ⟨fields, rfl, hfield⟩ | ⟨tag, rfl⟩⟩ := Details.of_ofJson? h hd
    · exact .inl ⟨s, .field hv hfield, hs⟩
    · exact .inl ⟨s, .item hv, hs⟩

theorem ofText?_of_spells (h : i.id? = some id) {s : String} (hs : i.Spells s) : TracerId.ofText? s = some id := by
  rcases spells_or_isIssued h with ⟨s', hs', hid⟩ | ⟨-, hnone⟩
  · rwa [hs.unique hs']
  · exact absurd hs (hnone s)

theorem issued_iff (h : i.id? = some id) : id.IsIssued ↔ ∀ s ∈ TracerId.nilTexts, ¬ i.Spells s := by
  rcases spells_or_isIssued h with ⟨s, hs, hid⟩ | ⟨hissued, hnone⟩
  · rw [TracerId.isIssued_iff]
    constructor
    · intro hne s' hs' hspells
      have hnil := TracerId.ofText?_eq_nil_iff.2 hs'
      rw [ofText?_of_spells h hspells] at hnil
      exact hne (Option.some.inj hnil)
    · rintro hall rfl
      exact hall s (TracerId.ofText?_eq_nil_iff.1 hid) hs
  · exact ⟨fun _ s _ => hnone s, fun _ => hissued⟩

/-- Whatever comes in is the id of a tracer, which tags and links carry, unless a JSON text spells the reserved id. -/
theorem carried (h : i.id? = some id) : i.Carried id where
  spelled _ := ofText?_of_spells h
  issued_iff := issued_iff h
  bytes := Tag.decodeBytes_encodeBytes id
  string := (Tag.decodeString_encodeString id).trans (Tag.decodeBytes_encodeBytes id)
  link := (InProcessLink.target_ofTarget_some id).trans (Tag.decodeBytes_encodeBytes id)

/-- The details of a link to the tracer with the reserved id, which is spelled with bits that are dropped. -/
def nilLink : String :=
  "\x7b \"kind\": \"in_process_link\", \"target\": \"R0000000000000000000000000\" \x7d"

theorem carried_nilLink : (detailsJson nilLink).id? = some .nil ∧ (detailsJson nilLink).Carried .nil := by
  have h : (detailsJson nilLink).id? = some .nil := by decide +kernel
  exact ⟨h, carried h⟩

/-- The reserved id comes in, and no tag and no link carries it. -/
theorem nil_of_idJson : (idJson "\"00000000000000000000000000\"").id? = some .nil ∧ ¬ TracerId.nil.IsIssued ∧
    Tag.decodeBytes (Tag.encodeBytes .nil) = none ∧ Tag.decodeString (Tag.encodeString .nil) = none ∧
    (InProcessLink.ofTarget (some .nil)).target = none := by
  decide +kernel

end Inlet

end CallPath
