import CallPath.Proofs.Trimming
import CallPath.Tag
import CallPath.Text.Utf8
import Mathlib.Data.List.Basic
/-!
# Tags are read as they were written

Whatever form a tag of a tracer travels in, its reader finds the id of that tracer: as bytes, as a
string with white space around it, or in an in-process link. Only the id zero, which no tracer has,
is lost on the way.
-/

namespace CallPath

open Encoding

/-! ## Base 64 -/

namespace Encoding.Base64

theorem digit?_digitChar (d : Nat) (h : d < 64) : digit? (digitChar d) = some d := by
  have all : ∀ d : Fin 64, digit? (digitChar d) = some d.val := by decide +kernel
  exact all ⟨d, h⟩

theorem digitChar_ne_pad (d : Nat) (h : d < 64) : digitChar d ≠ '=' := by
  have all : ∀ d : Fin 64, digitChar d ≠ '=' := by decide +kernel
  exact all ⟨d, h⟩

/-- A full group in front of a text. -/
theorem decode?_group (p q r s : Nat) (hp : p < 64) (hq : q < 64) (hr : r < 64) (hs : s < 64) (cs : List Char) :
    decode? (digitChar p :: digitChar q :: digitChar r :: digitChar s :: cs) =
      (decode? cs).map (threeBytes p q r s ++ ·) := by
  have hpad := digitChar_ne_pad s hs
  rw [decode?]
  · simp only [digit?_digitChar, hp, hq, hr, hs, Option.bind_eq_bind, Option.bind_some, Option.pure_def]
    exact Option.map_eq_bind.symm
  · exact fun _ h => absurd h hpad
  · exact fun h => absurd h hpad

/-- Reading gives back the bytes that were written. -/
theorem decode_encode (bytes : List UInt8) : decode? (encode bytes) = some bytes := by
  fun_induction encode bytes with
  | case1 => rfl
  | case2 a =>
    have ha := a.toNat_lt
    rw [decode?]
    simp only [digit?_digitChar (a.toNat / 4) (by omega), digit?_digitChar (a.toNat % 4 * 16) (by omega),
      Option.bind_eq_bind, Option.bind_some]
    have e : a.toNat / 4 * 4 + a.toNat % 4 * 16 / 16 = a.toNat := by omega
    rw [oneByte?, if_pos (by omega), e, UInt8.ofNat_toNat]
  | case3 a b =>
    have ha := a.toNat_lt
    have hb := b.toNat_lt
    rw [decode?]
    · simp only [digit?_digitChar (a.toNat / 4) (by omega),
        digit?_digitChar (a.toNat % 4 * 16 + b.toNat / 16) (by omega),
        digit?_digitChar (b.toNat % 16 * 4) (by omega), Option.bind_eq_bind, Option.bind_some]
      have e : a.toNat / 4 * 4 + (a.toNat % 4 * 16 + b.toNat / 16) / 16 = a.toNat := by omega
      have e' : (a.toNat % 4 * 16 + b.toNat / 16) % 16 * 16 + b.toNat % 16 * 4 / 4 = b.toNat := by omega
      rw [twoBytes?, if_pos (by omega), e, e', UInt8.ofNat_toNat, UInt8.ofNat_toNat]
    · exact digitChar_ne_pad _ (by omega)
  | case4 a b c rest ih =>
    have ha := a.toNat_lt
    have hb := b.toNat_lt
    have hc := c.toNat_lt
    rw [decode?_group _ _ _ _ (by omega) (by omega) (by omega) (by omega), ih]
    have e : a.toNat / 4 * 4 + (a.toNat % 4 * 16 + b.toNat / 16) / 16 = a.toNat := by omega
    have e' : (a.toNat % 4 * 16 + b.toNat / 16) % 16 * 16 + (b.toNat % 16 * 4 + c.toNat / 64) / 4 = b.toNat := by
      omega
    have e'' : (b.toNat % 16 * 4 + c.toNat / 64) % 4 * 64 + c.toNat % 64 = c.toNat := by omega
    simp only [threeBytes, e, e', e'', UInt8.ofNat_toNat]
    rfl

theorem mem_alphabet_digitChar (d : Nat) : digitChar d ∈ alphabet := by
  unfold digitChar
  rw [List.getD_eq_getElem?_getD]
  cases h : alphabet[d]? with
  | none => decide +kernel
  | some c => exact List.mem_of_getElem? h

theorem mem_encode {bytes : List UInt8} {c : Char} (h : c ∈ encode bytes) : c ∈ '=' :: alphabet := by
  have digit : ∀ d, digitChar d ∈ '=' :: alphabet := fun d => List.mem_cons_of_mem _ (mem_alphabet_digitChar d)
  fun_induction encode bytes with
  | case1 => cases h
  | case2 a =>
    simp only [List.mem_cons, List.not_mem_nil, or_false] at h
    rcases h with rfl | rfl | rfl | rfl <;> simp [digit]
  | case3 a b =>
    simp only [List.mem_cons, List.not_mem_nil, or_false] at h
    rcases h with rfl | rfl | rfl | rfl <;> simp [digit]
  | case4 a b c' rest ih =>
    simp only [List.mem_cons] at h
    rcases h with rfl | rfl | rfl | rfl | h
    · exact digit _
    · exact digit _
    · exact digit _
    · exact digit _
    · exact ih h

/-- What is written is plain ASCII without white space. -/
theorem plain_of_mem_encode {bytes : List UInt8} {c : Char} (h : c ∈ encode bytes) :
    c.toNat < 128 ∧ Text.isBlank c = false := by
  have all : ('=' :: alphabet).all (fun c => c.toNat < 128 && !Text.isBlank c) = true := by decide +kernel
  simpa using List.all_eq_true.1 all c (mem_encode h)

end Encoding.Base64

/-! ## Texts -/

namespace Text

/-- ASCII codes are read as the characters they stand for. -/
theorem charsOfBytes_ascii {cs : List Char} (h : ∀ c ∈ cs, c.toNat < 128) :
    charsOfBytes (cs.map fun c => UInt8.ofNat c.toNat) = cs := by
  have one : ∀ c : Char, c.toNat < 128 →
      UInt8.ofNat c.toNat < 0x80 ∧ Char.ofNat (UInt8.ofNat c.toNat).toNat = c := by
    intro c hc
    have e : (UInt8.ofNat c.toNat).toNat = c.toNat := by
      rw [UInt8.toNat_ofNat']
      omega
    exact ⟨by rw [UInt8.lt_iff_toNat_lt, e]; exact hc, by rw [e, Char.ofNat_toNat]⟩
  induction cs with
  | nil => rfl
  | cons c cs ih =>
    obtain ⟨hlt, hc⟩ := one c (h c (by simp))
    have ih' := ih fun c' hc' => h c' (by simp [hc'])
    cases cs with
    | nil => simp only [List.map_cons, List.map_nil, charsOfBytes, hlt, if_true, hc]
    | cons c' cs =>
      simp only [List.map_cons] at ih' ⊢
      rw [charsOfBytes.eq_def]
      simp only [hlt, if_true, hc, ih']

end Text

/-! ## Tags and links -/

/-- No tracer is issued the reserved id. -/
def TracerId.IsIssued (id : TracerId) : Prop :=
  id.value ≠ 0

instance (id : TracerId) : Decidable id.IsIssued :=
  inferInstanceAs (Decidable (_ ≠ _))

theorem TracerId.ofDigits_toBytes (id : TracerId) : ofDigits 256 (id.toBytes.map UInt8.toNat) = id.value := by
  have hdigits : id.toBytes.map UInt8.toNat = digits 256 16 id.value := by
    unfold toBytes
    rw [List.map_map, List.map_congr_left, List.map_id]
    intro d hd
    have hlt := lt_of_mem_digits (by decide) hd
    rw [Function.comp_apply, UInt8.toNat_ofNat']
    exact Nat.mod_eq_of_lt hlt
  rw [hdigits, ofDigits_digits]
  exact Nat.mod_eq_of_lt id.isLt

theorem TracerId.ofBytes?_toBytes {id : TracerId} (h : id.IsIssued) : ofBytes? id.toBytes = some id := by
  rw [ofBytes?, if_pos id.length_toBytes, ofDigits_toBytes, ofNat?, dif_pos ⟨Nat.pos_of_ne_zero h, id.isLt⟩]

namespace Tag

variable {id : TracerId}

theorem decodeBytes_encode (h : id.IsIssued) : decodeBytes (encode id .bytes) = some id := by
  simp only [decodeBytes, encode, encodeBytes]
  exact TracerId.ofBytes?_toBytes h

theorem ofBytes_encode (id : TracerId) : (Text.ofBytes (encode id .string)).toList = Base64.encode id.toBytes := by
  simp only [Text.ofBytes, encode, encodeString, String.toList_ofList]
  exact Text.charsOfBytes_ascii fun c hc => (Base64.plain_of_mem_encode hc).1

theorem decodeString_encode (h : id.IsIssued) {pre post : String} (hpre : Text.allBlank pre = true)
    (hpost : Text.allBlank post = true) : decodeString (pre ++ Text.ofBytes (encode id .string) ++ post) = some id := by
  have htrim : (Text.trim (pre ++ Text.ofBytes (encode id .string) ++ post)).toList = Base64.encode id.toBytes := by
    rw [Text.toList_trim, String.toList_append, String.toList_append, ofBytes_encode]
    exact Text.trimBlank_around hpre hpost fun c hc => (Base64.plain_of_mem_encode hc).2
  rw [decodeString, htrim, Base64.decode_encode, Option.bind_eq_bind, Option.bind_some, decodeBytes]
  exact TracerId.ofBytes?_toBytes h

end Tag

/-- The tag is a copy of what was handed out in one of the forms; a string may have picked up white
space at its ends. -/
inductive IncomingTag.Copies : IncomingTag → TagForm → List UInt8 → Prop
  | bytes (data : List UInt8) : Copies (.bytes data) .bytes data
  | string (pre post : String) (data : List UInt8) (hpre : Text.allBlank pre = true)
      (hpost : Text.allBlank post = true) : Copies (.string (pre ++ Text.ofBytes data ++ post)) .string data

theorem IncomingTag.Copies.decode_eq {tag : IncomingTag} {form : TagForm} {id : TracerId} (h : id.IsIssued)
    (hc : tag.Copies form (Tag.encode id form)) : tag.decode = some id := by
  generalize hdata : Tag.encode id form = data at hc
  cases hc with
  | bytes => rw [decode, ← hdata, Tag.decodeBytes_encode h]
  | string pre post _ hpre hpost => rw [decode, ← hdata, Tag.decodeString_encode h hpre hpost]

theorem InProcessLink.target_ofTarget {id : TracerId} (h : id.IsIssued) : (ofTarget (some id)).target = some id := by
  simp only [ofTarget, target, if_true, Tag.decodeBytes, Tag.encodeBytes]
  exact TracerId.ofBytes?_toBytes h

end CallPath
