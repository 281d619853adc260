/-
**References are replaced in one pass.**

* `Token.StandsFor`: what a token stands for under a table of definitions;
* `Token.Offends`: a text begins with a token that stands for nothing, and the problem with it;
* `Token.expand_eq_ok_iff`: tokens expand to what they stand for, put together;
* `substitute_eq_error_iff`: a text is refused for the first token that stands for nothing;
* `substitute_onePass`: a text becomes what its tokens stand for, or is refused in this way.
-/

import Mathlib.Data.List.Forall2
import Mathlib.Data.List.TakeWhile
import StoreTopology.Proofs.Action
import StoreTopology.Proofs.Section.References

namespace StoreTopology

open Text

variable {definitions : Definitions} {text result : List Char} {problem : ParseProblem}

namespace Token

variable {token : Token} {tokens rest : List Token}

/-! ### What tokens stand for -/

/-- What a token stands for. The value of a name is put in as it is: a dollar sign in it begins
nothing. -/
inductive StandsFor (definitions : Definitions) : Token → List Char → Prop
  | plain (c : Char) : StandsFor definitions (plain c) [c]
  | dollar : StandsFor definitions dollar ['$']
  | bare {name : List Char} {value : String}
      (isDefined : definitions.get? (lowercased (.ofList name)) = some value) :
      StandsFor definitions (bare name) value.toList
  | braced {name : List Char} {value : String}
      (isDefined : definitions.get? (lowercased (.ofList name)) = some value) :
      StandsFor definitions (braced name) value.toList

theorem lookUp_eq_ok_iff {name : List Char} :
    meaning.lookUp definitions name = .ok text ↔
      ∃ value, definitions.get? (lowercased (.ofList name)) = some value ∧ text = value.toList := by
  unfold meaning.lookUp
  cases definitions.get? (lowercased (.ofList name)) with
  | none => simp
  | some value => simp [eq_comm]

theorem lookUp_eq_error_iff {name : List Char} :
    meaning.lookUp definitions name = .error problem ↔
      definitions.get? (lowercased (.ofList name)) = none ∧
        problem = .undefinedName (.ofList name) := by
  unfold meaning.lookUp
  cases definitions.get? (lowercased (.ofList name)) with
  | none => simp [eq_comm]
  | some value => simp

theorem meaning_eq_ok_iff : token.meaning definitions = .ok text ↔
    StandsFor definitions token text := by
  constructor
  · intro means
    cases token with
    | plain c =>
      cases means
      exact .plain c
    | dollar =>
      cases means
      exact .dollar
    | bare name =>
      obtain ⟨value, isDefined, rfl⟩ := lookUp_eq_ok_iff.mp means
      exact .bare isDefined
    | braced name =>
      obtain ⟨value, isDefined, rfl⟩ := lookUp_eq_ok_iff.mp means
      exact .braced isDefined
    | unterminated rest => cases means
    | lone rest => cases means
  · intro stands
    cases stands with
    | plain c => rfl
    | dollar => rfl
    | bare isDefined => exact lookUp_eq_ok_iff.mpr ⟨_, isDefined, rfl⟩
    | braced isDefined => exact lookUp_eq_ok_iff.mpr ⟨_, isDefined, rfl⟩

/-- Tokens that stand for something are no mistakes. -/
theorem isSound_of_standsFor {pieces : List (List Char)}
    (stand : List.Forall₂ (StandsFor definitions) tokens pieces) :
    ∀ token ∈ tokens, token.isSound = true := by
  induction stand with
  | nil => exact List.forall_mem_nil _
  | cons stands _ ih => exact List.forall_mem_cons.mpr ⟨by cases stands <;> rfl, ih⟩

/-! ### Tokens in a row -/

theorem expand_cons_of_ok (means : token.meaning definitions = .ok text) :
    expand definitions (token :: rest) = (expand definitions rest).map (text ++ ·) := by
  rw [expand, means]
  cases expand definitions rest <;> rfl

theorem expand_cons_of_error (means : token.meaning definitions = .error problem) :
    expand definitions (token :: rest) = .error problem := by
  rw [expand, means]

/-- Tokens expand to what they stand for, one after another. -/
theorem expand_eq_ok_iff : expand definitions tokens = .ok result ↔
    ∃ pieces, List.Forall₂ (StandsFor definitions) tokens pieces ∧ result = pieces.flatten := by
  induction tokens generalizing result with
  | nil => simp [expand, eq_comm]
  | cons token rest ih =>
    constructor
    · intro expands
      cases means : token.meaning definitions with
      | error problem =>
        rw [expand_cons_of_error means] at expands
        cases expands
      | ok text =>
        rw [expand_cons_of_ok means, map_eq_ok] at expands
        obtain ⟨later, expandsRest, rfl⟩ := expands
        obtain ⟨pieces, stand, rfl⟩ := ih.mp expandsRest
        exact ⟨text :: pieces, .cons (meaning_eq_ok_iff.mp means) stand, rfl⟩
    · rintro ⟨_, stand, rfl⟩
      obtain ⟨text, pieces, first, later, rfl⟩ := List.forall₂_cons_left_iff.mp stand
      rw [expand_cons_of_ok (meaning_eq_ok_iff.mpr first), map_eq_ok]
      exact ⟨pieces.flatten, ih.mpr ⟨pieces, later, rfl⟩, rfl⟩

/-! ### The first mistake -/

/-- The text begins with a token that stands for nothing. -/
inductive Offends (definitions : Definitions) : List Char → ParseProblem → Prop
  /-- A brace is opened and not closed. -/
  | unterminated {rest : List Char} (noBrace : '}' ∉ rest) :
      Offends definitions ('$' :: '{' :: rest) .unterminatedReference
  /-- A dollar sign is followed by nothing that could go with it. -/
  | lone {rest : List Char}
      (beginsNothing : ∀ c ∈ rest.head?, c ≠ '$' ∧ c ≠ '{' ∧ isBareStart c = false) :
      Offends definitions ('$' :: rest) .loneDollar
  | undefinedBraced {name rest : List Char} (noBrace : '}' ∉ name)
      (isUndefined : definitions.get? (lowercased (.ofList name)) = none) :
      Offends definitions ('$' :: '{' :: (name ++ '}' :: rest)) (.undefinedName (.ofList name))
  | undefinedBare {start : Char} {name rest : List Char} (begins : isBareStart start = true)
      (goesOn : ∀ c ∈ name, isBareChar c = true) (ends : ∀ c ∈ rest.head?, isBareChar c = false)
      (isUndefined : definitions.get? (lowercased (.ofList (start :: name))) = none) :
      Offends definitions ('$' :: start :: (name ++ rest))
        (.undefinedName (.ofList (start :: name)))

/-- A mistake begins with a dollar sign, which no bare name goes on with. -/
theorem Offends.stop (offends : Offends definitions text problem) :
    ∀ c ∈ text.head?, isBareChar c = false := by
  have first : text.head? = some '$' := by cases offends <;> rfl
  rw [first]
  rintro _ ⟨⟩
  decide

theorem read_lone {after : List Char}
    (beginsNothing : ∀ c ∈ after.head?, c ≠ '$' ∧ c ≠ '{' ∧ isBareStart c = false) :
    read ('$' :: after) = [lone after] := by
  rw [read.eq_def]
  dsimp only
  rw [if_neg (by decide)]
  split
  · rfl
  · exact absurd rfl (beginsNothing _ rfl).1
  · exact absurd rfl (beginsNothing _ rfl).2.1
  · rw [if_neg (Bool.eq_false_iff.mp (beginsNothing _ rfl).2.2)]

theorem read_unterminated {after : List Char} (noBrace : '}' ∉ after) :
    read ('$' :: '{' :: after) = [unterminated after] := by
  have all : after.dropWhile (· ≠ '}') = [] := List.dropWhile_eq_nil_iff.mpr fun c present =>
    decide_eq_true fun same => noBrace (same ▸ present)
  rw [read.eq_def]
  dsimp only
  rw [if_neg (by decide)]
  split
  · next same => cases same
  · next same => cases same
  · next same =>
    cases same
    split
    · rfl
    · next found =>
      rw [all] at found
      cases found
  · next notBrace same =>
    cases same
    exact absurd rfl notBrace

/-- A text that begins with a mistake is refused for it. -/
theorem Offends.expand_read (offends : Offends definitions text problem) :
    expand definitions (read text) = .error problem := by
  cases offends with
  | unterminated noBrace =>
    rw [read_unterminated noBrace]
    exact expand_cons_of_error rfl
  | lone beginsNothing =>
    rw [read_lone beginsNothing]
    exact expand_cons_of_error rfl
  | undefinedBraced noBrace isUndefined =>
    rw [read_braced noBrace]
    exact expand_cons_of_error (lookUp_eq_error_iff.mpr ⟨isUndefined, rfl⟩)
  | undefinedBare begins goesOn ends isUndefined =>
    rw [read_bare begins goesOn ends]
    exact expand_cons_of_error (lookUp_eq_error_iff.mpr ⟨isUndefined, rfl⟩)

/-- Tokens are read from the beginning of a text in the same way if a mistake follows them. -/
theorem Splits.read_append {front back : List Char} (splits : Splits front tokens)
    (offends : Offends definitions back problem) : read (front ++ back) = tokens ++ read back := by
  induction splits with
  | nil => rfl
  | plain notDollar _ ih => rw [List.cons_append, read_plain notDollar, ih, List.cons_append]
  | dollar _ ih => rw [List.cons_append, List.cons_append, read_dollar, ih, List.cons_append]
  | @braced name rest _ noBrace _ ih =>
    have apart : '$' :: '{' :: (name ++ '}' :: rest) ++ back =
        '$' :: '{' :: (name ++ '}' :: (rest ++ back)) := by simp
    rw [apart, read_braced noBrace, ih, List.cons_append]
  | @bare start name rest _ begins goesOn ends _ ih =>
    have apart : '$' :: start :: (name ++ rest) ++ back = '$' :: start :: (name ++ (rest ++ back)) := by
      simp
    -- The name may end with the front; then the dollar sign of the mistake ends it.
    have endsToo : ∀ c ∈ (rest ++ back).head?, isBareChar c = false := by
      cases rest with
      | nil => exact offends.stop
      | cons c after => exact ends
    rw [apart, read_bare begins goesOn endsToo, ih, List.cons_append]

/-- The first mistake of a text: the tokens in front of it all stand for something. -/
def FirstMistake (definitions : Definitions) (text : List Char) (problem : ParseProblem) : Prop :=
  ∃ front back tokens pieces, text = front ++ back ∧ Splits front tokens ∧
    List.Forall₂ (StandsFor definitions) tokens pieces ∧ Offends definitions back problem

theorem FirstMistake.here (offends : Offends definitions text problem) :
    FirstMistake definitions text problem :=
  ⟨[], text, [], [], rfl, .nil, .nil, offends⟩

/-- A token that stands for something may stand in front of the text. -/
theorem FirstMistake.after {whole : List Char} (stands : StandsFor definitions token result)
    (mistake : FirstMistake definitions text problem)
    (inFront : ∀ front back tokens, text = front ++ back → Splits front tokens →
      ∃ longer, whole = longer ++ back ∧ Splits longer (token :: tokens)) :
    FirstMistake definitions whole problem := by
  obtain ⟨front, back, tokens, pieces, split, splits, stand, offends⟩ := mistake
  obtain ⟨longer, isWhole, splitsLonger⟩ := inFront front back tokens split splits
  exact ⟨longer, back, token :: tokens, result :: pieces, isWhole, splitsLonger,
    .cons stands stand, offends⟩

/-- Of a token and the tokens after it, one is at fault if they do not expand. -/
theorem expand_cons_eq_error_iff : expand definitions (token :: rest) = .error problem ↔
    token.meaning definitions = .error problem ∨
      ∃ text, StandsFor definitions token text ∧ expand definitions rest = .error problem := by
  cases means : token.meaning definitions with
  | error other =>
    rw [expand_cons_of_error means]
    constructor
    · exact .inl
    · rintro (same | ⟨text, stands, _⟩)
      · exact same
      · rw [meaning_eq_ok_iff.mpr stands] at means
        cases means
  | ok text =>
    rw [expand_cons_of_ok means, map_eq_error]
    constructor
    · exact fun refused => .inr ⟨text, meaning_eq_ok_iff.mp means, refused⟩
    · rintro (failed | ⟨_, _, refused⟩)
      · cases failed
      · exact refused

/-- A text whose tokens do not expand is refused for its first mistake. -/
theorem firstMistake_of_expand (refused : expand definitions (read text) = .error problem) :
    FirstMistake definitions text problem := by
  -- In every case of the reader the mistake is its first token, or lies in what is left to read.
  fun_induction read text with
  | case1 => cases refused
  | case2 c rest notDollar ih =>
    rcases expand_cons_eq_error_iff.mp refused with failed | ⟨_, stands, later⟩
    · cases failed
    · exact .after stands (ih later) fun front back tokens split splits =>
        ⟨c :: front, by rw [split, List.cons_append], .plain notDollar splits⟩
  | case3 c isDollar =>
    cases Decidable.not_not.mp isDollar
    rcases expand_cons_eq_error_iff.mp refused with failed | ⟨_, stands, _⟩
    · cases failed
      refine .here (.lone ?_)
      rintro _ ⟨⟩
    · cases stands
  | case4 c isDollar after ih =>
    cases Decidable.not_not.mp isDollar
    rcases expand_cons_eq_error_iff.mp refused with failed | ⟨_, stands, later⟩
    · cases failed
    · exact .after stands (ih later) fun front back tokens split splits =>
        ⟨'$' :: '$' :: front, by rw [split]; rfl, .dollar splits⟩
  | case5 c isDollar after none =>
    cases Decidable.not_not.mp isDollar
    rcases expand_cons_eq_error_iff.mp refused with failed | ⟨_, stands, _⟩
    · cases failed
      refine .here (.unterminated fun present => ?_)
      simpa using List.dropWhile_eq_nil_iff.mp none '}' present
    · cases stands
  | case6 c isDollar after stop beyond found ih =>
    cases Decidable.not_not.mp isDollar
    obtain ⟨name, rfl, noBrace, taken⟩ := exists_braced found
    rw [taken] at refused
    rcases expand_cons_eq_error_iff.mp refused with failed | ⟨_, stands, later⟩
    · obtain ⟨isUndefined, rfl⟩ := lookUp_eq_error_iff.mp failed
      exact .here (.undefinedBraced noBrace isUndefined)
    · exact .after stands (ih later) fun front back tokens split splits =>
        ⟨'$' :: '{' :: (name ++ '}' :: front), by simp [split], .braced noBrace splits⟩
  | case7 c isDollar start after notDollar notBrace begins ih =>
    cases Decidable.not_not.mp isDollar
    obtain ⟨name, rest, apart, goesOn, ends, taken, dropped⟩ := exists_bare after
    rw [taken, dropped] at refused
    rw [dropped] at ih
    rw [apart]
    rcases expand_cons_eq_error_iff.mp refused with failed | ⟨_, stands, later⟩
    · obtain ⟨isUndefined, rfl⟩ := lookUp_eq_error_iff.mp failed
      exact .here (.undefinedBare begins goesOn ends isUndefined)
    · refine .after stands (ih later) fun front back tokens split splits =>
        ⟨'$' :: start :: (name ++ front), by simp [split], .bare begins goesOn ?_ splits⟩
      cases front with
      | nil => rintro _ ⟨⟩
      | cons d others =>
        rw [split] at ends
        exact ends
  | case8 c isDollar start after notDollar notBrace notStart =>
    cases Decidable.not_not.mp isDollar
    rcases expand_cons_eq_error_iff.mp refused with failed | ⟨_, stands, _⟩
    · cases failed
      refine .here (.lone ?_)
      rintro _ ⟨⟩
      exact ⟨notDollar, notBrace, Bool.eq_false_iff.mpr notStart⟩
    · cases stands

end Token

/-- A text is refused exactly for its first mistake. -/
theorem substitute_eq_error_iff : substitute definitions text = .error problem ↔
    Token.FirstMistake definitions text problem := by
  constructor
  · exact Token.firstMistake_of_expand
  · rintro ⟨front, back, tokens, pieces, rfl, splits, stand, offends⟩
    unfold substitute
    rw [splits.read_append offends]
    clear splits
    induction stand with
    | nil => exact offends.expand_read
    | cons stands _ ih => exact Token.expand_cons_eq_error_iff.mpr (.inr ⟨_, stands, ih⟩)

/-- A text becomes what its tokens stand for. -/
theorem substitute_eq_ok_iff : substitute definitions text = .ok result ↔
    ∃ tokens pieces, Token.Splits text tokens ∧
      List.Forall₂ (Token.StandsFor definitions) tokens pieces ∧ result = pieces.flatten := by
  unfold substitute
  rw [Token.expand_eq_ok_iff]
  constructor
  · rintro ⟨pieces, stand, same⟩
    exact ⟨_, pieces, Token.splits_read (Token.isSound_of_standsFor stand), stand, same⟩
  · rintro ⟨tokens, pieces, splits, stand, same⟩
    exact ⟨pieces, splits.read_eq ▸ stand, same⟩

/-- **References are replaced in one pass.** A text becomes what its tokens stand for, put together
in their order, with the value of a name as it was defined; so a text with its dollar signs doubled
becomes the text. A text that does not split into tokens that all stand for something is refused for
the first one that does not. -/
theorem substitute_onePass (definitions : Definitions) (text : List Char) :
    (∀ result, substitute definitions text = .ok result ↔
      ∃ tokens pieces, Token.Splits text tokens ∧
        List.Forall₂ (Token.StandsFor definitions) tokens pieces ∧ result = pieces.flatten) ∧
    (∀ problem, substitute definitions text = .error problem ↔
      ∃ front back tokens pieces, text = front ++ back ∧ Token.Splits front tokens ∧
        List.Forall₂ (Token.StandsFor definitions) tokens pieces ∧
        Token.Offends definitions back problem) ∧
    substitute definitions (doubled text) = .ok text :=
  ⟨fun _ => substitute_eq_ok_iff, fun _ => substitute_eq_error_iff,
    substitute_doubled definitions text⟩

end StoreTopology
