import Bayeux.Proofs.Gzip.RoundTrip

set_option autoImplicit false

namespace Bayeux

namespace Gzip

theorem toNat_le_or (a b : UInt8) : b.toNat ≤ (a ||| b).toNat := by
  rw [UInt8.toNat_or]
  exact Nat.right_le_or

-- The first byte of a character is below the continuation bytes and then the only one, or it is
-- above them.
theorem utf8EncodeChar_first (c : Char) : ∃ first more, String.utf8EncodeChar c = first :: more ∧
    (first.toNat < 0x80 ∧ more = [] ∨ 0xC0 ≤ first.toNat) := by
  rcases c.utf8Size_eq with one | two | three | four
  · refine ⟨_, _, String.utf8EncodeChar_eq_singleton one, .inl ⟨?_, rfl⟩⟩
    have small := UInt32.le_iff_toNat_le.mp (Char.utf8Size_eq_one_iff.mp one)
    have small : c.val.toNat ≤ 127 := small
    rw [UInt32.toNat_toUInt8]
    omega
  · exact ⟨_, _, String.utf8EncodeChar_eq_cons_cons two, .inr (toNat_le_or _ 0xC0)⟩
  · exact ⟨_, _, String.utf8EncodeChar_eq_cons_cons_cons three,
      .inr (Nat.le_trans (by decide) (toNat_le_or _ 0xE0))⟩
  · exact ⟨_, _, String.utf8EncodeChar_eq_cons_cons_cons_cons four,
      .inr (Nat.le_trans (by decide) (toNat_le_or _ 0xF0))⟩

theorem toUTF8_toList (text : String) :
    text.toUTF8.data.toList = text.toList.flatMap String.utf8EncodeChar := by
  rw [String.toUTF8_eq_toByteArray, ← String.utf8Encode_toList, List.utf8Encode,
    List.toList_data_toByteArray]

theorem hasMagic_iff (bytes : ByteArray) :
    hasMagic bytes = true ↔ ∃ rest, bytes.data.toList = 0x1f :: 0x8b :: rest := by
  simp only [hasMagic, ← Array.getElem?_toList]
  rcases bytes.data.toList with - | ⟨a, - | ⟨b, rest⟩⟩ <;> simp

-- No text in UTF-8 begins like a member: the second byte of the magic goes on with a character that
-- the first one does not begin.
theorem hasMagic_toUTF8 (text : String) : hasMagic text.toUTF8 = false := by
  refine Bool.eq_false_iff.mpr fun magic => ?_
  obtain ⟨rest, bytes⟩ := (hasMagic_iff _).mp magic
  rw [toUTF8_toList] at bytes
  generalize text.toList = chars at bytes
  rcases chars with - | ⟨c, cs⟩
  · simp at bytes
  obtain ⟨a, more, first, low⟩ := utf8EncodeChar_first c
  rw [List.flatMap_cons, first, List.cons_append, List.cons.injEq] at bytes
  obtain ⟨rfl, bytes⟩ := bytes
  rcases low with ⟨-, rfl⟩ | high
  · rcases cs with - | ⟨d, cs⟩
    · simp at bytes
    obtain ⟨b, later, second, low⟩ := utf8EncodeChar_first d
    rw [List.nil_append, List.flatMap_cons, second, List.cons_append, List.cons.injEq] at bytes
    obtain ⟨rfl, -⟩ := bytes
    rcases low with ⟨small, -⟩ | large
    · exact absurd small (by decide)
    · exact absurd large (by decide)
  · exact absurd high (by decide)

theorem hasMagic_compress (data : ByteArray) : hasMagic (compress data) = true :=
  (isMember_compress data).hasMagic

end Gzip

end Bayeux
