/-
**The text of a string is read back.**

* `goes_escapedChar`: the text of one character adds the encoding of that character;
* `goes_escaped`: so does the text of all characters, one after another;
* `close_bytesOf`: at the closing quotation mark the bytes are the string again.
-/

import StoreTopology.Json.Printer
import StoreTopology.Proofs.Json.Reading
import StoreTopology.Proofs.Text.Encoding

namespace StoreTopology.TextState

open Text Json

/-! ### One byte -/

/-- A byte of plain text that is no control character, quotation mark or backslash is kept. -/
theorem step_plain {bytes : List UInt8} {byte : UInt8} (visible : ¬ byte < 0x20)
    (notQuote : byte ≠ 0x22) (notBackslash : byte ≠ 0x5c) :
    step ⟨bytes, .plain⟩ byte = .goesOn ⟨byte :: bytes, .plain⟩ := by
  simp only [step, if_neg notQuote, if_neg notBackslash, if_neg visible]

/-- Bytes of plain text are kept one after another. -/
theorem goes_plain {text : List UInt8} (bytes : List UInt8)
    (plain : ∀ byte ∈ text, ¬ byte < 0x20 ∧ byte ≠ 0x22 ∧ byte ≠ 0x5c) :
    Goes ⟨bytes, .plain⟩ text ⟨text.reverse ++ bytes, .plain⟩ := by
  induction text generalizing bytes with
  | nil => exact .nil _
  | cons byte rest ih =>
    obtain ⟨visible, notQuote, notBackslash⟩ := plain byte List.mem_cons_self
    refine .cons _ (step_plain visible notQuote notBackslash) ?_
    have later := ih (byte :: bytes) fun other present =>
      plain other (List.mem_cons_of_mem _ present)
    rwa [List.reverse_cons, List.append_assoc]

/-! ### One character -/

/-- A backslash and a letter stand for one byte. -/
theorem goes_letter {bytes : List UInt8} {letter byte : UInt8}
    (stands : stepEscape ⟨bytes, .escape⟩ letter = .goesOn ⟨byte :: bytes, .plain⟩) :
    Goes ⟨bytes, .plain⟩ [0x5c, letter] ⟨byte :: bytes, .plain⟩ :=
  .cons ⟨bytes, .escape⟩ (by simp [step])
    (.cons _ (by simpa only [step] using stands) (.nil _))

/-- The digits that write a control character. -/
theorem hexNumber?_control {code : Nat} (control : code < 0x20) :
    hexNumber? [UInt8.ofNat (Nat.digitChar (code % 16)).toNat,
      UInt8.ofNat (Nat.digitChar (code / 16)).toNat, 0x30, 0x30] = some code := by
  decide +revert

/-- Four hexadecimal digits stand for a control character. -/
theorem goes_codeUnit (bytes : List UInt8) {code : Nat} (control : code < 0x20) :
    Goes ⟨bytes, .plain⟩
      [0x5c, 0x75, 0x30, 0x30, UInt8.ofNat (Nat.digitChar (code / 16)).toNat,
        UInt8.ofNat (Nat.digitChar (code % 16)).toNat]
      ⟨UInt8.ofNat code :: bytes, .plain⟩ := by
  have unit := hexNumber?_control control
  have encoded : String.utf8EncodeChar (Char.ofNat code) = [UInt8.ofNat code] := by
    have valid : code.isValidChar := .inl (by omega)
    have image : (Char.ofNat code).toNat = code := by
      rw [Char.ofNat, dif_pos valid]
      rfl
    rw [utf8EncodeChar_ascii (by omega), image]
  refine .cons ⟨bytes, .escape⟩ (by simp [step]) ?_
  refine .cons ⟨bytes, .codeUnit none []⟩ (by simp [step, stepEscape]) ?_
  refine .cons ⟨bytes, .codeUnit none [0x30]⟩ (by simp [step]) ?_
  refine .cons ⟨bytes, .codeUnit none [0x30, 0x30]⟩ (by simp [step]) ?_
  refine .cons ⟨bytes, .codeUnit none [_, 0x30, 0x30]⟩ (by simp [step]; rfl) ?_
  refine .cons _ ?_ (.nil _)
  have notTrailing : ¬ 0xdc00 ≤ code := by omega
  have notLeading : ¬ 0xd800 ≤ code := by omega
  simp only [step, List.length_cons, List.length_nil, Nat.lt_irrefl, if_false, unit]
  simp [stepCodeUnit, notTrailing, notLeading, push, encoded]

/-- The encoding of a character that is written as it is needs no backslash. -/
theorem plain_utf8EncodeChar {c : Char} (visible : ¬ c.toNat < 0x20) (notQuote : c ≠ '"')
    (notBackslash : c ≠ '\\') :
    ∀ byte ∈ String.utf8EncodeChar c, ¬ byte < 0x20 ∧ byte ≠ 0x22 ∧ byte ≠ 0x5c := by
  intro byte present
  by_cases ascii : c.toNat < 0x80
  · rw [utf8EncodeChar_ascii ascii, List.mem_singleton] at present
    have code : byte.toNat = c.toNat := by
      rw [present, UInt8.toNat_ofNat', Nat.mod_eq_of_lt (by omega)]
    refine ⟨fun less => ?_, fun same => notQuote ?_, fun same => notBackslash ?_⟩
    · rw [UInt8.lt_iff_toNat_lt, code] at less
      exact visible less
    · exact Char.toNat_inj.mp (code.symm.trans (by rw [same]; rfl))
    · exact Char.toNat_inj.mp (code.symm.trans (by rw [same]; rfl))
  · have high := le_of_mem_utf8EncodeChar (by omega) present
    rw [UInt8.le_iff_toNat_le] at high
    have above : 0x80 ≤ byte.toNat := high
    refine ⟨fun less => ?_, fun same => ?_, fun same => ?_⟩
    · have below : byte.toNat < 0x20 := UInt8.lt_iff_toNat_lt.mp less
      omega
    · rw [same] at above
      exact absurd above (by decide)
    · rw [same] at above
      exact absurd above (by decide)

/-- The text of one character adds its encoding. -/
theorem goes_escapedChar (bytes : List UInt8) (c : Char) :
    Goes ⟨bytes, .plain⟩ ((escapedChar c).flatMap String.utf8EncodeChar)
      ⟨(String.utf8EncodeChar c).reverse ++ bytes, .plain⟩ := by
  unfold escapedChar
  split
  · exact goes_letter rfl
  · exact goes_letter rfl
  · exact goes_letter rfl
  · exact goes_letter rfl
  · exact goes_letter rfl
  · exact goes_letter rfl
  · exact goes_letter rfl
  · next notQuote notBackslash _ _ _ _ _ =>
    split
    · next control =>
      have ascii : ∀ d < 16, (Nat.digitChar d).toNat < 0x80 := by decide
      have high := utf8EncodeChar_ascii (ascii (c.toNat / 16) (by omega))
      have low := utf8EncodeChar_ascii (ascii (c.toNat % 16) (by omega))
      rw [utf8EncodeChar_ascii (c := c) (by omega)]
      simp only [List.flatMap_cons, List.flatMap_nil, high, low]
      exact goes_codeUnit bytes control
    · next visible =>
      rw [List.flatMap_singleton]
      exact goes_plain bytes (plain_utf8EncodeChar visible notQuote notBackslash)

/-- The text of all characters adds their encodings. -/
theorem goes_escaped (bytes : List UInt8) (text : List Char) :
    Goes ⟨bytes, .plain⟩ ((text.flatMap escapedChar).flatMap String.utf8EncodeChar)
      ⟨(text.flatMap String.utf8EncodeChar).reverse ++ bytes, .plain⟩ := by
  induction text generalizing bytes with
  | nil => exact .nil _
  | cons c rest ih =>
    simp only [List.flatMap_cons, List.flatMap_append, List.reverse_append, List.append_assoc]
    exact (goes_escapedChar bytes c).append (ih _)

/-- At the closing quotation mark the bytes of a text are that text. -/
theorem close_bytesOf (text : String) :
    close ⟨(bytesOf text).reverse, .plain⟩ = .ends text := by
  simp only [close, List.reverse_reverse, fromUTF8?_bytesOf]

end StoreTopology.TextState

namespace StoreTopology.JsonState

open Text Json

theorem step_text_quote {limit : Nat} {frames : List JsonFrame} (text : String) :
    step limit ⟨frames, .text ⟨(bytesOf text).reverse, .plain⟩⟩ 0x22 =
      .ok ⟨frames, .after (.string text)⟩ := by
  have closed : TextState.step ⟨(bytesOf text).reverse, .plain⟩ 0x22 = .ends text :=
    TextState.close_bytesOf text
  simp only [step, closed]

theorem step_name_quote {limit : Nat} {frames : List JsonFrame} {before : List (String × Json)}
    (text : String) :
    step limit ⟨frames, .name before ⟨(bytesOf text).reverse, .plain⟩⟩ 0x22 =
      .ok ⟨frames, .colon before text⟩ := by
  have closed : TextState.step ⟨(bytesOf text).reverse, .plain⟩ 0x22 = .ends text :=
    TextState.close_bytesOf text
  simp only [step, closed]

/-- The bytes of a string's text. -/
theorem bytesOf_stringText (text : String) :
    bytesOf (stringText text) =
      0x22 :: ((text.toList.flatMap escapedChar).flatMap String.utf8EncodeChar ++ [0x22]) := by
  have quote : String.utf8EncodeChar '"' = [0x22] := rfl
  rw [stringText, bytesOf_ofList]
  simp [quote]

/-- A string value is read back from its text. -/
theorem reads_stringText {limit : Nat} (frames : List JsonFrame) (place : ValuePlace)
    (text : String) :
    Reads limit ⟨frames, .value place⟩ (bytesOf (stringText text))
      ⟨frames, .after (.string text)⟩ := by
  rw [bytesOf_stringText]
  refine .cons ⟨frames, .text {}⟩ (by simp [step, stepValue, isBlankByte]) ?_
  refine .append (reads_text (TextState.goes_escaped [] text.toList)) (.single ?_)
  rw [List.append_nil, ← bytesOf_eq_flatMap]
  exact step_text_quote text

/-- The name of a member is read back from its text. -/
theorem reads_memberName {limit : Nat} (frames : List JsonFrame) (before : List (String × Json))
    (first : Bool) (text : String) :
    Reads limit ⟨frames, .member before first⟩ (bytesOf (stringText text))
      ⟨frames, .colon before text⟩ := by
  rw [bytesOf_stringText]
  refine .cons ⟨frames, .name before {}⟩ (by simp [step, stepMember, isBlankByte]) ?_
  refine .append (reads_name (TextState.goes_escaped [] text.toList)) (.single ?_)
  rw [List.append_nil, ← bytesOf_eq_flatMap]
  exact step_name_quote text

end StoreTopology.JsonState
