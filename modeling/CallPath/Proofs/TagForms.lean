import CallPath.Proofs.TagCodec
import Mathlib.Data.List.Induction
/-!
# Every tag has one form

`TagCodec` says that a tag is read as it was written. Here is the other direction: what is read as
the tag of a tracer is exactly what is written for it, white space around a string aside. Every
other byte, digit or padding character makes a tag unreadable, so that no two tracers share a tag
(`TagForms.injective`). A byte tag, a link and a string tag of one tracer differ in length, so that
no bytes are read as two of them (`TagForms.disjoint`).
-/

namespace CallPath

open Encoding

/-! ## Digits -/

namespace Encoding

/-- Writing gives back the digits that were read. -/
theorem digits_ofDigits {b : Nat} {ds : List Nat} (h : ∀ d ∈ ds, d < b) :
    digits b ds.length (ofDigits b ds) = ds := by
  induction ds using List.reverseRecOn with
  | nil => rfl
  | append_singleton ds d ih =>
    have hd : d < b := h d (by simp)
    have hdiv : (ofDigits b ds * b + d) / b = ofDigits b ds := by
      rw [Nat.mul_comm, Nat.mul_add_div (by omega), Nat.div_eq_of_lt hd, Nat.add_zero]
    have hmod : (ofDigits b ds * b + d) % b = d := by
      rw [Nat.mul_comm, Nat.mul_add_mod, Nat.mod_eq_of_lt hd]
    rw [ofDigits_append_singleton, List.length_append, List.length_singleton, digits, hdiv, hmod,
      ih fun d' hd' => h d' (by simp [hd'])]

end Encoding

namespace TracerId

theorem toBytes_injective : Function.Injective toBytes := by
  intro id id' h
  have hvalue : id.value = id'.value := by rw [← ofDigits_toBytes, h, ofDigits_toBytes]
  cases id
  cases id'
  cases hvalue
  rfl

theorem eq_toBytes_of_ofBytes? {data : List UInt8} {id : TracerId} (h : ofBytes? data = some id) :
    data = id.toBytes := by
  unfold ofBytes? at h
  split at h
  · rename_i hlen
    unfold ofNat? at h
    split at h
    · cases h
      have hdigits : digits 256 16 (ofDigits 256 (data.map UInt8.toNat)) = data.map UInt8.toNat := by
        rw [← hlen, ← List.length_map UInt8.toNat]
        refine digits_ofDigits fun d hd => ?_
        obtain ⟨b, -, rfl⟩ := List.mem_map.1 hd
        exact b.toNat_lt
      have hback : (UInt8.ofNat ∘ UInt8.toNat : UInt8 → UInt8) = id := funext fun b => b.ofNat_toNat
      rw [toBytes, hdigits, List.map_map, hback, List.map_id]
    · cases h
  · cases h

end TracerId

/-! ## Base 64 -/

namespace Encoding.Base64

theorem digit?_eq_some {c : Char} {d : Nat} (h : digit? c = some d) : c = digitChar d ∧ d < 64 := by
  obtain ⟨hlt, hc, -⟩ := List.idxOf?_eq_some_iff.1 h
  refine ⟨?_, hlt⟩
  rw [digitChar, List.getD_eq_getElem?_getD, List.getElem?_eq_getElem hlt, hc]
  rfl

theorem eq_encode_of_oneByte? {p q : Nat} {bytes : List UInt8} (hp : p < 64) (hq : q < 64)
    (h : oneByte? p q = some bytes) : [digitChar p, digitChar q, '=', '='] = encode bytes := by
  unfold oneByte? at h
  split at h
  · cases h
    have ha : (UInt8.ofNat (p * 4 + q / 16)).toNat = p * 4 + q / 16 := UInt8.toNat_ofNat_of_lt' (show _ < 256 by omega)
    have hp' : (p * 4 + q / 16) / 4 = p := by omega
    have hq' : (p * 4 + q / 16) % 4 * 16 = q := by omega
    rw [encode, ha, hp', hq']
  · cases h

theorem eq_encode_of_twoBytes? {p q r : Nat} {bytes : List UInt8} (hp : p < 64) (hq : q < 64) (hr : r < 64)
    (h : twoBytes? p q r = some bytes) : [digitChar p, digitChar q, digitChar r, '='] = encode bytes := by
  unfold twoBytes? at h
  split at h
  · cases h
    have ha : (UInt8.ofNat (p * 4 + q / 16)).toNat = p * 4 + q / 16 := UInt8.toNat_ofNat_of_lt' (show _ < 256 by omega)
    have hb : (UInt8.ofNat (q % 16 * 16 + r / 4)).toNat = q % 16 * 16 + r / 4 :=
      UInt8.toNat_ofNat_of_lt' (show _ < 256 by omega)
    have hp' : (p * 4 + q / 16) / 4 = p := by omega
    have hq' : (p * 4 + q / 16) % 4 * 16 + (q % 16 * 16 + r / 4) / 16 = q := by omega
    have hr' : (q % 16 * 16 + r / 4) % 16 * 4 = r := by omega
    rw [encode, ha, hb, hp', hq', hr']
  · cases h

theorem encode_threeBytes {p q r s : Nat} (hp : p < 64) (hq : q < 64) (hr : r < 64) (hs : s < 64)
    (rest : List UInt8) : encode (threeBytes p q r s ++ rest) =
      digitChar p :: digitChar q :: digitChar r :: digitChar s :: encode rest := by
  have ha : (UInt8.ofNat (p * 4 + q / 16)).toNat = p * 4 + q / 16 := UInt8.toNat_ofNat_of_lt' (show _ < 256 by omega)
  have hb : (UInt8.ofNat (q % 16 * 16 + r / 4)).toNat = q % 16 * 16 + r / 4 :=
    UInt8.toNat_ofNat_of_lt' (show _ < 256 by omega)
  have hc : (UInt8.ofNat (r % 4 * 64 + s)).toNat = r % 4 * 64 + s := UInt8.toNat_ofNat_of_lt' (show _ < 256 by omega)
  have hp' : (p * 4 + q / 16) / 4 = p := by omega
  have hq' : (p * 4 + q / 16) % 4 * 16 + (q % 16 * 16 + r / 4) / 16 = q := by omega
  have hr' : (q % 16 * 16 + r / 4) % 16 * 4 + (r % 4 * 64 + s) / 64 = r := by omega
  have hs' : (r % 4 * 64 + s) % 64 = s := by omega
  show encode (_ :: _ :: _ :: rest) = _
  rw [encode, ha, hb, hc, hp', hq', hr', hs']

/-- What can be read is exactly what is written for it: spare bits are zero, and there is all the
padding that is needed, and no more. -/
theorem eq_encode_of_decode? {cs : List Char} {bytes : List UInt8} (h : decode? cs = some bytes) :
    cs = encode bytes := by
  fun_induction decode? cs generalizing bytes with
  | case1 =>
    cases h
    rfl
  | case2 w x =>
    simp only [Option.bind_eq_bind, Option.bind_eq_some_iff] at h
    obtain ⟨p, dp, q, dq, h⟩ := h
    obtain ⟨rfl, hp⟩ := digit?_eq_some dp
    obtain ⟨rfl, hq⟩ := digit?_eq_some dq
    exact eq_encode_of_oneByte? hp hq h
  | case3 w x y =>
    simp only [Option.bind_eq_bind, Option.bind_eq_some_iff] at h
    obtain ⟨p, dp, q, dq, r, dr, h⟩ := h
    obtain ⟨rfl, hp⟩ := digit?_eq_some dp
    obtain ⟨rfl, hq⟩ := digit?_eq_some dq
    obtain ⟨rfl, hr⟩ := digit?_eq_some dr
    exact eq_encode_of_twoBytes? hp hq hr h
  | case4 w x y z rest _ _ ih =>
    simp only [Option.bind_eq_bind, Option.bind_eq_some_iff, Option.pure_def, Option.some.injEq] at h
    obtain ⟨p, dp, q, dq, r, dr, s, ds, group, hgroup, rfl⟩ := h
    obtain ⟨rfl, hp⟩ := digit?_eq_some dp
    obtain ⟨rfl, hq⟩ := digit?_eq_some dq
    obtain ⟨rfl, hr⟩ := digit?_eq_some dr
    obtain ⟨rfl, hs⟩ := digit?_eq_some ds
    rw [encode_threeBytes hp hq hr hs, ih hgroup]
  | case5 => cases h

theorem encode_injective : Function.Injective encode := by
  intro bytes bytes' h
  have hread := decode_encode bytes
  rw [h, decode_encode] at hread
  exact (Option.some.inj hread).symm

theorem length_encode (bytes : List UInt8) : (encode bytes).length = (bytes.length + 2) / 3 * 4 := by
  fun_induction encode bytes with
  | case1 => rfl
  | case2 | case3 => simp
  | case4 a b c rest ih =>
    simp only [List.length_cons, ih]
    omega

end Encoding.Base64

/-! ## Texts -/

namespace Text

theorem toBytes_eq (s : String) : toBytes s = s.toList.flatMap String.utf8EncodeChar := by
  show s.toByteArray.data.toList = _
  rw [← String.utf8Encode_toList, List.utf8Encode, List.toList_data_toByteArray]

/-- A text of bytes: they are its UTF-8 form, or what is not was replaced. -/
inductive ReadAs (data : List UInt8) : String → Prop
  | utf8 (s : String) (h : toBytes s = data) : ReadAs data s
  | replaced : ReadAs data (ofBytes data)

theorem length_charsOfBytes_le (data : List UInt8) : (charsOfBytes data).length ≤ data.length := by
  fun_induction charsOfBytes data <;> simp_all <;> omega

/-- Every character takes a byte at least. -/
theorem ReadAs.length_le {data : List UInt8} {s : String} (h : ReadAs data s) :
    s.toList.length ≤ data.length := by
  cases h with
  | utf8 _ h =>
    rw [← h, toBytes_eq]
    induction s.toList with
    | nil => exact Nat.le_refl _
    | cons c cs ih =>
      have hc : 0 < c.utf8Size := c.utf8Size_pos
      simp only [List.flatMap_cons, List.length_append, List.length_cons, String.length_utf8EncodeChar]
      omega
  | replaced =>
    simp only [ofBytes, String.toList_ofList]
    exact length_charsOfBytes_le data

theorem length_trimBlank_le (cs : List Char) : (trimBlank cs).length ≤ cs.length := by
  have hlen : ∀ l : List Char, (l.dropWhile isBlank).length ≤ l.length := fun l =>
    (List.dropWhile_suffix _).length_le
  unfold trimBlank
  rw [List.length_reverse]
  refine Nat.le_trans (hlen _) ?_
  rw [List.length_reverse]
  exact hlen cs

/-- The UTF-8 form of ASCII characters is their codes. -/
theorem toBytes_ascii {s : String} (h : ∀ c ∈ s.toList, c.toNat < 128) :
    toBytes s = s.toList.map fun c => UInt8.ofNat c.toNat := by
  have one : ∀ c ∈ s.toList, String.utf8EncodeChar c = [UInt8.ofNat c.toNat] := by
    intro c hc
    have hc' : c.utf8Size = 1 := Char.utf8Size_eq_one_iff.2 (Nat.le_of_lt_succ (h c hc))
    exact String.utf8EncodeChar_eq_singleton hc'
  rw [toBytes_eq, List.flatMap_congr one, List.map_eq_flatMap]

end Text

/-! ## Tags and links -/

namespace Tag

variable {id : TracerId}

theorem decodeBytes_eq_some_iff (h : id.IsIssued) {data : List UInt8} :
    decodeBytes data = some id ↔ data = encodeBytes id := by
  constructor
  · exact TracerId.eq_toBytes_of_ofBytes?
  · intro hdata
    rw [hdata]
    exact decodeBytes_encode h

theorem trim_eq_of_decodeString {text : String} (h : decodeString text = some id) :
    Text.trim text = encodeString id := by
  rw [decodeString, Option.bind_eq_bind, Option.bind_eq_some_iff] at h
  obtain ⟨data, hdata, hid⟩ := h
  rw [encodeString, ← TracerId.eq_toBytes_of_ofBytes? hid, ← Base64.eq_encode_of_decode? hdata, String.ofList_toList]

theorem decodeString_eq_some_iff (h : id.IsIssued) {text : String} :
    decodeString text = some id ↔ Text.trim text = encodeString id := by
  constructor
  · exact trim_eq_of_decodeString
  · intro htrim
    rw [decodeString, htrim, encodeString, String.toList_ofList, Base64.decode_encode, Option.bind_eq_bind,
      Option.bind_some]
    exact TracerId.ofBytes?_toBytes h

theorem encodeString_injective : Function.Injective encodeString := fun _ _ h =>
  TracerId.toBytes_injective (Base64.encode_injective (String.ofList_injective h))

theorem length_encodeString (id : TracerId) : (encodeString id).toList.length = 24 := by
  rw [encodeString, String.toList_ofList, Base64.length_encode, id.length_toBytes]

theorem encodeOutgoing_eq (id : TracerId) : encodeOutgoing id = ⟨encodeString id, encodeBytes id⟩ := rfl

theorem encodeOutgoing_injective : Function.Injective encodeOutgoing := by
  intro id id' h
  rw [encodeOutgoing_eq, encodeOutgoing_eq] at h
  exact TracerId.toBytes_injective (EncodedTag.mk.inj h).2

/-- The string form of a tag is made of the bytes of its text. -/
theorem encode_string (id : TracerId) : encode id .string = Text.toBytes (encodeString id) := by
  refine (Text.toBytes_ascii fun c hc => ?_).symm
  rw [encodeString, String.toList_ofList] at hc
  exact (Base64.plain_of_mem_encode hc).1

theorem encode_string_injective : Function.Injective (encode · .string) := by
  intro id id' h
  dsimp only at h
  have hbytes : Base64.encode id.toBytes = Base64.encode id'.toBytes := by
    rw [← ofBytes_encode, h, ofBytes_encode]
  exact TracerId.toBytes_injective (Base64.encode_injective hbytes)

theorem length_encode (id : TracerId) (form : TagForm) :
    (encode id form).length = if form = .bytes then 16 else 24 := by
  cases form with
  | bytes => exact id.length_toBytes
  | string => rw [encode, List.length_map, length_encodeString, if_neg (by decide)]

/-- Two tags differ, even if they have different forms. -/
theorem encode_injective : Function.Injective fun x : TracerId × TagForm => encode x.1 x.2 := by
  rintro ⟨id, form⟩ ⟨id', form'⟩ h
  have hlen := congrArg List.length h
  simp only [length_encode] at hlen
  obtain rfl : form = form' := by
    cases form <;> cases form' <;> first | rfl | simp at hlen
  have hid : id = id' := by
    cases form with
    | bytes => exact TracerId.toBytes_injective h
    | string => exact encode_string_injective h
  rw [hid]

end Tag

namespace InProcessLink

theorem target_eq_some_iff {id : TracerId} (h : id.IsIssued) {data : List UInt8} :
    target ⟨data⟩ = some id ↔ data = (ofTarget (some id)).bytes := by
  constructor
  · intro ht
    cases data with
    | nil => cases ht
    | cons b rest =>
      simp only [target] at ht
      split at ht
      · rename_i hb
        rw [(Tag.decodeBytes_eq_some_iff h).1 ht, hb]
        rfl
      · cases ht
  · intro hdata
    rw [hdata]
    exact target_ofTarget h

theorem ofTarget_injective : Function.Injective ofTarget := by
  intro target target' h
  have hbytes := InProcessLink.mk.inj h
  cases target with
  | none =>
    cases target' with
    | none => rfl
    | some id' => exact absurd hbytes.symm (List.cons_ne_nil _ _)
  | some id =>
    cases target' with
    | none => exact absurd hbytes (List.cons_ne_nil _ _)
    | some id' => exact congrArg some (TracerId.toBytes_injective (List.cons.inj hbytes).2)

end InProcessLink

/-! ## No bytes are read twice -/

section

variable {data : List UInt8} {text : String}

theorem Tag.length_of_decodeBytes (h : (decodeBytes data).isSome = true) : data.length = 16 := by
  obtain ⟨id, h⟩ := Option.isSome_iff_exists.1 h
  rw [TracerId.eq_toBytes_of_ofBytes? h, TracerId.length_toBytes]

theorem InProcessLink.length_of_target (h : (target ⟨data⟩).isSome = true) : data.length = 17 := by
  cases data with
  | nil => cases h
  | cons b rest =>
    simp only [target] at h
    split at h
    · rw [List.length_cons, Tag.length_of_decodeBytes h]
    · cases h

theorem Tag.length_of_decodeString (hr : Text.ReadAs data text) (h : (decodeString text).isSome = true) :
    24 ≤ data.length := by
  obtain ⟨id, h⟩ := Option.isSome_iff_exists.1 h
  have hlen := congrArg (fun s => s.toList.length) (trim_eq_of_decodeString h)
  simp only [Text.toList_trim, length_encodeString] at hlen
  rw [← hlen]
  exact Nat.le_trans (Text.length_trimBlank_le _) hr.length_le

end

/-- What tags and links look like, and what is read of them. -/
structure TagForms : Prop where
  bytes : ∀ id : TracerId, id.IsIssued → ∀ data, Tag.decodeBytes data = some id ↔ data = Tag.encodeBytes id
  string : ∀ id : TracerId, id.IsIssued → ∀ text,
    Tag.decodeString text = some id ↔ Text.trim text = Tag.encodeString id
  link : ∀ id : TracerId, id.IsIssued → ∀ data,
    InProcessLink.target ⟨data⟩ = some id ↔ data = (InProcessLink.ofTarget (some id)).bytes
  outgoing : ∀ id, Tag.encodeOutgoing id = ⟨Tag.encodeString id, Tag.encodeBytes id⟩
  forms : ∀ id, Tag.encode id .bytes = Tag.encodeBytes id ∧ Tag.encode id .string = Text.toBytes (Tag.encodeString id)
  bytes_injective : Function.Injective Tag.encodeBytes
  string_injective : Function.Injective Tag.encodeString
  outgoing_injective : Function.Injective Tag.encodeOutgoing
  form_injective : Function.Injective fun x : TracerId × TagForm => Tag.encode x.1 x.2
  link_injective : Function.Injective InProcessLink.ofTarget
  /-- At most one of the readers accepts the same bytes. -/
  disjoint : ∀ data text, Text.ReadAs data text →
    [Tag.decodeBytes data, Tag.decodeString text, InProcessLink.target ⟨data⟩].countP Option.isSome ≤ 1

/-- A tag or a link is read as the id of a tracer exactly if it is what is written for that tracer,
whatever else bytes or texts may hold. -/
theorem tagForms : TagForms where
  bytes _ h _ := Tag.decodeBytes_eq_some_iff h
  string _ h _ := Tag.decodeString_eq_some_iff h
  link _ h _ := InProcessLink.target_eq_some_iff h
  outgoing := Tag.encodeOutgoing_eq
  forms id := ⟨rfl, Tag.encode_string id⟩
  bytes_injective := TracerId.toBytes_injective
  string_injective := Tag.encodeString_injective
  outgoing_injective := Tag.encodeOutgoing_injective
  form_injective := Tag.encode_injective
  link_injective := InProcessLink.ofTarget_injective
  disjoint data text hr := by
    have hb : (Tag.decodeBytes data).isSome = true → data.length = 16 := Tag.length_of_decodeBytes
    have hs := Tag.length_of_decodeString hr
    have hl : (InProcessLink.target ⟨data⟩).isSome = true → data.length = 17 := InProcessLink.length_of_target
    -- Each reader needs a length of its own, so two of them cannot both be right.
    generalize Tag.decodeBytes data = ofBytes at hb ⊢
    generalize Tag.decodeString text = ofString at hs ⊢
    generalize InProcessLink.target ⟨data⟩ = ofLink at hl ⊢
    cases ofBytes <;> cases ofString <;> cases ofLink <;> simp at hb hs hl ⊢ <;> omega

end CallPath
