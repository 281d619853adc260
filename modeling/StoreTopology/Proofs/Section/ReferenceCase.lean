/-
**The case of names that values refer to does not matter.**

* `Token.SameButCase`, `RecasedValue`: two tokens and two values that differ in the case of ASCII
  letters in names only, the text around the names being the same;
* `Token.Splits.of_sameButCase`: the tokens of one such value are read from the other;
* `substitute_of_recased`: both stand for the same text, if one of them stands for any.
-/

import StoreTopology.Proofs.Section.Layout
import StoreTopology.Proofs.Text.LetterCase

namespace StoreTopology

open Text

/-! ### Values -/

namespace Token

/-- The text of a token. -/
def written : Token → List Char
  | plain c => [c]
  | dollar => ['$', '$']
  | bare name => '$' :: name
  | braced name => '$' :: '{' :: (name ++ ['}'])
  | unterminated rest => '$' :: '{' :: rest
  | lone rest => '$' :: rest

/-- The tokens are the same but for the case of letters in the name that they refer to. -/
inductive SameButCase : Token → Token → Prop
  | same (token : Token) : SameButCase token token
  | bare {name other : List Char} (recased : Text.SameButCase name other) :
      SameButCase (bare name) (bare other)
  | braced {name other : List Char} (recased : Text.SameButCase name other) :
      SameButCase (braced name) (braced other)

variable {token other : Token} {tokens others : List Token} {text : List Char}

theorem SameButCase.symm (same : SameButCase token other) : SameButCase other token := by
  cases same with
  | same => exact .same token
  | bare recased => exact .bare recased.symm
  | braced recased => exact .braced recased.symm

theorem SameButCase.written (same : SameButCase token other) :
    Text.SameButCase token.written other.written := by
  cases same with
  | same => exact .refl _
  | bare recased => exact .append (.refl ['$']) recased
  | braced recased => exact .append (.refl ['$', '{']) (.append recased (.refl ['}']))

theorem sameButCase_written (same : List.Forall₂ SameButCase tokens others) :
    Text.SameButCase (tokens.flatMap written) (others.flatMap written) := by
  induction same with
  | nil => exact .refl []
  | cons first _ ih => exact first.written.append ih

/-- A text is written with the tokens that it splits into. -/
theorem Splits.written_eq (splits : Splits text tokens) : tokens.flatMap written = text := by
  induction splits with
  | nil => rfl
  | plain _ _ ih => rw [List.flatMap_cons, ih]; rfl
  | dollar _ ih => rw [List.flatMap_cons, ih]; rfl
  | braced _ _ ih => rw [List.flatMap_cons, ih]; simp [written]
  | bare _ _ _ _ ih => rw [List.flatMap_cons, ih]; rfl

theorem isBareStart_toLower (c : Char) : isBareStart c.toLower = isBareStart c :=
  apply_toLower (by decide +kernel) c

theorem isBareChar_toLower (c : Char) : isBareChar c.toLower = isBareChar c :=
  apply_toLower (by decide +kernel) c

/-- What is the same as a bare name is one. -/
theorem SameButCase.exists_bare {name : List Char} (same : SameButCase (.bare name) other) :
    ∃ changed, other = .bare changed ∧ Text.SameButCase name changed := by
  cases same with
  | same => exact ⟨name, rfl, .refl name⟩
  | bare recased => exact ⟨_, rfl, recased⟩

/-- What is the same as a name in braces is one. -/
theorem SameButCase.exists_braced {name : List Char} (same : SameButCase (.braced name) other) :
    ∃ changed, other = .braced changed ∧ Text.SameButCase name changed := by
  cases same with
  | same => exact ⟨name, rfl, .refl name⟩
  | braced recased => exact ⟨_, rfl, recased⟩

/-- Tokens whose names are written with other letters are read back. -/
theorem Splits.of_sameButCase (splits : Splits text tokens)
    (same : List.Forall₂ SameButCase tokens others) :
    Splits (others.flatMap Token.written) others := by
  induction splits generalizing others with
  | nil =>
    cases same
    exact .nil
  | plain notDollar _ ih =>
    obtain ⟨_, later, first, rest, rfl⟩ := List.forall₂_cons_left_iff.mp same
    cases first
    exact .plain notDollar (ih rest)
  | dollar _ ih =>
    obtain ⟨_, later, first, rest, rfl⟩ := List.forall₂_cons_left_iff.mp same
    cases first
    exact .dollar (ih rest)
  | braced noBrace _ ih =>
    obtain ⟨_, later, first, rest, rfl⟩ := List.forall₂_cons_left_iff.mp same
    obtain ⟨changed, rfl, recased⟩ := first.exists_braced
    have splits := Splits.braced (recased.notMem (by decide) noBrace) (ih rest)
    rw [List.flatMap_cons]
    simpa [Token.written] using splits
  | bare begins goesOn ends splitsRest ih =>
    obtain ⟨_, later, first, rest, rfl⟩ := List.forall₂_cons_left_iff.mp same
    obtain ⟨changed, rfl, recased⟩ := first.exists_bare
    obtain ⟨start, name, rfl, sameStart, sameName⟩ := recased.exists_cons
    rw [← isBareStart_toLower, sameStart, isBareStart_toLower] at begins
    have followed := sameButCase_written rest
    rw [splitsRest.written_eq] at followed
    exact .bare begins (sameName.forall_mem isBareChar_toLower goesOn)
      (followed.head? isBareChar_toLower ends) (ih rest)

end Token

/-- The values are the same but for the case of letters in the names that they refer to. -/
def RecasedValue (value other : List Char) : Prop :=
  ∃ tokens others, Token.Splits value tokens ∧ List.Forall₂ Token.SameButCase tokens others ∧
    other = others.flatMap Token.written

namespace RecasedValue

variable {value other : List Char}

theorem symm (recased : RecasedValue value other) : RecasedValue other value := by
  obtain ⟨tokens, others, splits, same, rfl⟩ := recased
  refine ⟨others, tokens, splits.of_sameButCase same, ?_, splits.written_eq.symm⟩
  exact (same.imp fun _ _ => Token.SameButCase.symm).flip

theorem sameButCase (recased : RecasedValue value other) : SameButCase value other := by
  obtain ⟨tokens, others, splits, same, rfl⟩ := recased
  have written := Token.sameButCase_written same
  rw [splits.written_eq] at written
  exact written

end RecasedValue

/-! ### Replacing references -/

section Replacing

variable {definitions : Definitions} {text : List Char}

/-- A name stands for the same in either case. Only the message that it is not defined shows it. -/
theorem Token.lookUp_of_sameButCase {name other : List Char}
    (recased : Text.SameButCase name other)
    (found : meaning.lookUp definitions name = .ok text) :
    meaning.lookUp definitions other = .ok text := by
  unfold meaning.lookUp at found ⊢
  rw [← recased.lowercased_eq]
  split at found
  · exact found
  · cases found

theorem Token.meaning_of_sameButCase {token other : Token} (recased : token.SameButCase other)
    (means : token.meaning definitions = .ok text) : other.meaning definitions = .ok text := by
  cases recased with
  | same => exact means
  | bare recased => exact lookUp_of_sameButCase recased means
  | braced recased => exact lookUp_of_sameButCase recased means

theorem Token.expand_of_sameButCase {tokens others : List Token}
    (same : List.Forall₂ SameButCase tokens others)
    (expands : expand definitions tokens = .ok text) : expand definitions others = .ok text := by
  induction same generalizing text with
  | nil => exact expands
  | cons first _ ih =>
    rw [expand] at expands ⊢
    split at expands
    · cases expands
    · next means =>
      rw [meaning_of_sameButCase first means]
      dsimp only
      split at expands
      · cases expands
      · next means =>
        rw [ih means]
        exact expands

/-- The references of a value stand for the same with their names in other cases. -/
theorem substitute_of_recased {value other : List Char} (recased : RecasedValue value other)
    (replaced : substitute definitions value = .ok text) :
    substitute definitions other = .ok text := by
  obtain ⟨tokens, others, splits, same, rfl⟩ := recased
  unfold substitute at replaced ⊢
  rw [splits.read_eq] at replaced
  rw [(splits.of_sameButCase same).read_eq]
  exact Token.expand_of_sameButCase same replaced

end Replacing

end StoreTopology
