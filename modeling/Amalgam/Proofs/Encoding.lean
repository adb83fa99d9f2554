import Amalgam.Text.Bytes

namespace Amalgam.Bytes

theorem ofString_eq (text : String) : ofString text = text.toList.flatMap String.utf8EncodeChar := by
  rw [ofString, String.toUTF8_eq_toByteArray, ← String.utf8Encode_toList, List.utf8Encode,
    List.data_toByteArray]

theorem ofString_append (first second : String) : ofString (first ++ second) = ofString first ++ ofString second := by
  rw [ofString_eq, String.toList_append, List.flatMap_append, ofString_eq, ofString_eq]

theorem toString?_ofString (text : String) : toString? (ofString text) = some text := by
  simp only [toString?, ofString, Array.toArray_toList, String.fromUTF8?, String.toUTF8_eq_toByteArray,
    dif_pos text.isValidUTF8]
  rfl

/-- A byte below 128 is in the encoding of a character only if it is that character. -/
theorem toNat_of_mem_utf8EncodeChar {b : UInt8} {c : Char} (ascii : b.toNat < 128)
    (member : b ∈ String.utf8EncodeChar c) : c.toNat = b.toNat := by
  have code : c.toNat = c.val.toNat := rfl
  have value : ∀ n < 256, b = UInt8.ofNat n → b.toNat = n := by
    rintro n small rfl
    exact UInt8.toNat_ofNat_of_lt' small
  -- All bytes of a longer encoding are 128 or more.
  have high : ∀ n < 256, 128 ≤ n → b ≠ UInt8.ofNat n := by
    intro n small least same
    rw [value n small same] at ascii
    omega
  unfold String.utf8EncodeChar at member
  simp only at member
  split at member
  · rw [value _ (by omega) (List.mem_singleton.mp member), code]
  split at member
  · simp only [List.mem_cons, List.not_mem_nil, or_false] at member
    rcases member with same | same <;> exact absurd same (high _ (by omega) (by omega))
  split at member
  · simp only [List.mem_cons, List.not_mem_nil, or_false] at member
    rcases member with same | same | same <;> exact absurd same (high _ (by omega) (by omega))
  · simp only [List.mem_cons, List.not_mem_nil, or_false] at member
    rcases member with same | same | same | same <;> exact absurd same (high _ (by omega) (by omega))

/-- A text without an ASCII character has no byte for it either. -/
theorem notMem_ofString {text : String} {c : Char} {b : UInt8} (ascii : b.toNat < 128) (same : c.toNat = b.toNat)
    (absent : c ∉ text.toList) : b ∉ ofString text := by
  rw [ofString_eq, List.mem_flatMap]
  rintro ⟨d, member, within⟩
  have equal : c.toNat = d.toNat := same.trans (toNat_of_mem_utf8EncodeChar ascii within).symm
  rw [Char.toNat_inj] at equal
  exact absent (equal ▸ member)

end Amalgam.Bytes
