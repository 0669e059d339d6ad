/-
BrokerNode/Proofs/Text/Bytes.lean

Texts as bytes.

Bytes are the text that they were written for, and no other (`fromUTF8?_eq_some_iff`).  A byte below 128
in a text is a character of its own (`mem_utf8_iff`), and a text that starts as another does in its bytes
starts so in its characters (`utf8_append_eq_iff`).
-/
import Mathlib.Data.String.Basic

namespace BrokerNode.Text

/-- Bytes are read as a text just when they are the bytes of that text. -/
theorem fromUTF8?_eq_some_iff {bytes : ByteArray} {s : String} :
    String.fromUTF8? bytes = some s ↔ bytes = s.toUTF8 := by
  constructor
  · intro h
    unfold String.fromUTF8? at h
    split at h
    · next hvalid =>
      obtain rfl := Option.some.inj h
      rfl
    · cases h
  · rintro rfl
    have hvalid : s.toUTF8.IsValidUTF8 := s.isValidUTF8
    rw [String.fromUTF8?, dif_pos hvalid]
    rfl

/-- The bytes of a list of characters. -/
def utf8 (s : List Char) : List UInt8 := s.flatMap String.utf8EncodeChar

theorem utf8_append (s t : List Char) : utf8 (s ++ t) = utf8 s ++ utf8 t := List.flatMap_append

theorem utf8Encode_eq (s : List Char) : s.utf8Encode = ⟨(utf8 s).toArray⟩ := by
  show (utf8 s).toByteArray = _
  rw [← List.data_toByteArray]

theorem toUTF8_eq (s : String) : s.toUTF8 = ⟨(utf8 s.toList).toArray⟩ := by
  rw [String.toUTF8_eq_toByteArray, ← String.utf8Encode_toList, utf8Encode_eq]

/-- Bytes in a list are read as a text just when they are the bytes of its characters. -/
theorem fromUTF8?_toArray_eq_some_iff {bytes : List UInt8} {s : String} :
    String.fromUTF8? ⟨bytes.toArray⟩ = some s ↔ bytes = utf8 s.toList := by
  rw [fromUTF8?_eq_some_iff, toUTF8_eq]
  simp

/-- A text of equal characters of one byte each has as many bytes as characters. -/
theorem utf8ByteSize_replicate {c : Char} (hc : c.utf8Size = 1) (n : Nat) :
    (String.ofList (List.replicate n c)).utf8ByteSize = n := by
  rw [String.utf8ByteSize_ofList]
  induction n with
  | zero => rfl
  | succ n ih => rw [List.replicate_succ, String.utf8Len_cons, ih, hc]

/-! ### Characters below 128 -/

theorem mem_utf8EncodeChar_iff {b : UInt8} (hb : b.toNat < 128) {c : Char} :
    b ∈ String.utf8EncodeChar c ↔ c.toNat = b.toNat := by
  have hc : c.toNat = c.val.toNat := rfl
  rw [String.utf8EncodeChar.eq_1, ← hc]
  -- all bytes of a longer sequence are 128 or above
  split
  · rw [List.mem_singleton, ← UInt8.toNat_inj, UInt8.toNat_ofNat']
    omega
  split
  · simp only [List.mem_cons, ← UInt8.toNat_inj, UInt8.toNat_ofNat', List.not_mem_nil, or_false]
    omega
  split
  · simp only [List.mem_cons, ← UInt8.toNat_inj, UInt8.toNat_ofNat', List.not_mem_nil, or_false]
    omega
  · simp only [List.mem_cons, ← UInt8.toNat_inj, UInt8.toNat_ofNat', List.not_mem_nil, or_false]
    omega

/-- A byte below 128 is in a text just when the character of that number is. -/
theorem mem_utf8_iff {b : UInt8} {c : Char} (hb : b.toNat < 128) (hc : c.toNat = b.toNat)
    {s : List Char} : b ∈ utf8 s ↔ c ∈ s := by
  simp only [utf8, List.mem_flatMap, mem_utf8EncodeChar_iff hb, ← hc, Char.toNat_inj, exists_eq_right]

/-! ### Starts of texts -/

/-- The bytes of a text start with those of another just when the text starts with the other. -/
theorem utf8_append_eq_iff {s t : List Char} {bytes : List UInt8} :
    utf8 s ++ bytes = utf8 t ↔ ∃ r, t = s ++ r ∧ bytes = utf8 r := by
  constructor
  · intro h
    have hencode : s.utf8Encode ++ ⟨bytes.toArray⟩ = t.utf8Encode := by
      rw [utf8Encode_eq, utf8Encode_eq, ← h]
      rfl
    obtain ⟨r, rfl⟩ := List.isPrefix_of_utf8Encode_append_eq_utf8Encode _ hencode
    rw [utf8_append] at h
    exact ⟨r, rfl, List.append_cancel_left h⟩
  · rintro ⟨r, rfl, rfl⟩
    exact (utf8_append s r).symm

theorem utf8_prefix_iff {s t : List Char} : utf8 s <+: utf8 t ↔ s <+: t := by
  constructor
  · rintro ⟨bytes, h⟩
    obtain ⟨r, rfl, -⟩ := utf8_append_eq_iff.mp h
    exact List.prefix_append s r
  · rintro ⟨r, rfl⟩
    rw [utf8_append]
    exact List.prefix_append _ _

theorem utf8_inj {s t : List Char} : utf8 s = utf8 t ↔ s = t := by
  constructor
  · intro h
    have hst : s <+: t := utf8_prefix_iff.mp (h ▸ List.prefix_rfl)
    have hts : t <+: s := utf8_prefix_iff.mp (h ▸ List.prefix_rfl)
    exact hst.eq_of_length (Nat.le_antisymm hst.length_le hts.length_le)
  · rintro rfl
    rfl

end BrokerNode.Text
