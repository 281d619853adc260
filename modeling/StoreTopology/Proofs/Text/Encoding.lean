/-
**The bytes of a text.**

* `bytesOf_append`, `bytesOf_ofList`: the bytes of a text are the encodings of its characters;
* `fromUTF8?_bytesOf`: they are read back as the text;
* `utf8EncodeChar_ascii`, `le_of_mem_utf8EncodeChar`: a character of the ASCII range is one byte,
  and no other character has a byte of that range.
-/

namespace StoreTopology.Text

/-- The encoding of a text. -/
def bytesOf (text : String) : List UInt8 := text.toUTF8.data.toList

@[simp] theorem bytesOf_append (first second : String) :
    bytesOf (first ++ second) = bytesOf first ++ bytesOf second := by
  simp [bytesOf]

theorem bytesOf_ofList (text : List Char) :
    bytesOf (.ofList text) = text.flatMap String.utf8EncodeChar := by
  simp [bytesOf, List.utf8Encode]

theorem bytesOf_eq_flatMap (text : String) :
    bytesOf text = text.toList.flatMap String.utf8EncodeChar := by
  rw [← bytesOf_ofList, String.ofList_toList]

/-- The bytes of a text are read back as the text. -/
theorem fromUTF8?_bytesOf (text : String) :
    String.fromUTF8? ⟨(bytesOf text).toArray⟩ = some text := by
  have same : (⟨(bytesOf text).toArray⟩ : ByteArray) = text.toByteArray := by
    simp [bytesOf]
  rw [same, String.fromUTF8?, dif_pos text.isValidUTF8]
  rfl

theorem utf8EncodeChar_ascii {c : Char} (ascii : c.toNat < 0x80) :
    String.utf8EncodeChar c = [UInt8.ofNat c.toNat] := by
  have small : c.val.toNat ≤ 0x7f := by
    have : c.val.toNat < 0x80 := ascii
    omega
  rw [String.utf8EncodeChar, if_pos small]
  rfl

/-- A character beyond the ASCII range has no byte of that range. -/
theorem le_of_mem_utf8EncodeChar {c : Char} (beyond : 0x80 ≤ c.toNat) {byte : UInt8}
    (present : byte ∈ String.utf8EncodeChar c) : 0x80 ≤ byte := by
  have large : ¬ c.val.toNat ≤ 0x7f := by
    have : 0x80 ≤ c.val.toNat := beyond
    omega
  have high : ∀ n k : Nat, 0x80 ≤ k → k ≤ 0x80 + 0x70 → n < 0x100 - k →
      (0x80 : UInt8) ≤ UInt8.ofNat (n + k) := by
    intro n k low up room
    rw [UInt8.le_iff_toNat_le, UInt8.toNat_ofNat', Nat.mod_eq_of_lt (by omega)]
    exact Nat.le_trans low (Nat.le_add_left k n)
  simp only [String.utf8EncodeChar, large, if_false] at present
  split at present
  · simp only [List.mem_cons, List.not_mem_nil, or_false] at present
    rcases present with rfl | rfl <;> exact high _ _ (by omega) (by omega) (by omega)
  · split at present <;> simp only [List.mem_cons, List.not_mem_nil, or_false] at present
    · rcases present with rfl | rfl | rfl <;> exact high _ _ (by omega) (by omega) (by omega)
    · rcases present with rfl | rfl | rfl | rfl <;>
        exact high _ _ (by omega) (by omega) (by omega)

end StoreTopology.Text
