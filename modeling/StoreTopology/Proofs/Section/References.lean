/-
**The references of a value.**

* `Token.Splits`: a text splits, left to right, into tokens without a mistake;
* `splits_iff_read`: it splits into the tokens that are read from it, and into no others;
* `exists_substitute_iff`: the references of a text are replaced exactly if it splits and defines
  every name that it refers to;
* `substitute_doubled`: a text with its dollar signs doubled stands for the text.
-/

import StoreTopology.Proofs.Text.Lines
import StoreTopology.Section.Token

namespace StoreTopology

open Text

namespace Token

/-- A text splits, left to right, into tokens. A braced name holds anything but a closing brace, and
a bare name goes on as long as it can. -/
inductive Splits : List Char → List Token → Prop
  | nil : Splits [] []
  | plain {c : Char} {rest : List Char} {tokens : List Token} (notDollar : c ≠ '$')
      (later : Splits rest tokens) : Splits (c :: rest) (plain c :: tokens)
  | dollar {rest : List Char} {tokens : List Token} (later : Splits rest tokens) :
      Splits ('$' :: '$' :: rest) (dollar :: tokens)
  | braced {name rest : List Char} {tokens : List Token} (noBrace : '}' ∉ name)
      (later : Splits rest tokens) :
      Splits ('$' :: '{' :: (name ++ '}' :: rest)) (braced name :: tokens)
  | bare {start : Char} {name rest : List Char} {tokens : List Token}
      (begins : isBareStart start = true) (goesOn : ∀ c ∈ name, isBareChar c = true)
      (ends : ∀ c ∈ rest.head?, isBareChar c = false) (later : Splits rest tokens) :
      Splits ('$' :: start :: (name ++ rest)) (bare (start :: name) :: tokens)

/-- The token is no mistake. -/
def isSound : Token → Bool
  | unterminated _ | lone _ => false
  | plain _ | dollar | bare _ | braced _ => true

/-- The name that a token refers to. -/
def reference? : Token → Option (List Char)
  | bare name | braced name => some name
  | plain _ | dollar | unterminated _ | lone _ => none

/-! ### Reading -/

theorem isBareStart_ne {start : Char} (begins : isBareStart start = true) :
    start ≠ '$' ∧ start ≠ '{' := by
  constructor
  · rintro rfl
    exact absurd begins (by decide)
  · rintro rfl
    exact absurd begins (by decide)

theorem read_plain {c : Char} (notDollar : c ≠ '$') (rest : List Char) :
    read (c :: rest) = plain c :: read rest := by
  rw [read.eq_def]
  exact if_pos notDollar

theorem read_dollar (rest : List Char) : read ('$' :: '$' :: rest) = dollar :: read rest := by
  rw [read.eq_def]
  exact if_neg (by decide)

theorem read_braced {name : List Char} (noBrace : '}' ∉ name) (rest : List Char) :
    read ('$' :: '{' :: (name ++ '}' :: rest)) = braced name :: read rest := by
  have all : ∀ c ∈ name, decide (c ≠ '}') = true := fun c present =>
    decide_eq_true fun same => noBrace (same ▸ present)
  have stop : ∀ c ∈ ('}' :: rest).head?, decide (c ≠ '}') = false := by simp
  have apart := takeWhile_append_of_stop all stop
  rw [read.eq_def]
  dsimp only
  rw [if_neg (by decide)]
  split
  · next same => cases same
  · next same => cases same
  · next same =>
    cases same
    split
    · next none =>
      rw [apart.2] at none
      cases none
    · next found =>
      rw [apart.2] at found
      cases found
      rw [apart.1]
  · next notBrace same =>
    cases same
    exact absurd rfl notBrace

theorem read_bare {start : Char} {name rest : List Char} (begins : isBareStart start = true)
    (goesOn : ∀ c ∈ name, isBareChar c = true) (ends : ∀ c ∈ rest.head?, isBareChar c = false) :
    read ('$' :: start :: (name ++ rest)) = bare (start :: name) :: read rest := by
  obtain ⟨notDollar, notBrace⟩ := isBareStart_ne begins
  have apart := takeWhile_append_of_stop goesOn ends
  rw [read.eq_def]
  dsimp only
  rw [if_neg (by decide)]
  split
  · next same => cases same
  · next same =>
    cases same
    exact absurd rfl notDollar
  · next same =>
    cases same
    exact absurd rfl notBrace
  · next same =>
    cases same
    rw [if_pos begins, apart.1, apart.2]

/-- The tokens that a text splits into are those that are read from it. -/
theorem Splits.read_eq {text : List Char} {tokens : List Token} (splits : Splits text tokens) :
    read text = tokens := by
  induction splits with
  | nil => rw [read.eq_def]
  | plain notDollar _ ih => rw [read_plain notDollar, ih]
  | dollar _ ih => rw [read_dollar, ih]
  | braced noBrace _ ih => rw [read_braced noBrace, ih]
  | bare begins goesOn ends _ ih => rw [read_bare begins goesOn ends, ih]

/-- What stands before the first closing brace is a name without one. -/
theorem exists_braced {after beyond : List Char} {stop : Char}
    (found : after.dropWhile (· ≠ '}') = stop :: beyond) :
    ∃ name, after = name ++ '}' :: beyond ∧ '}' ∉ name ∧ after.takeWhile (· ≠ '}') = name := by
  have stops : decide (stop ≠ '}') = false := head?_dropWhile_stop stop (by rw [found]; rfl)
  have isBrace : stop = '}' := by simpa using stops
  subst isBrace
  refine ⟨_, ?_, fun present => ?_, rfl⟩
  · rw [← found, List.takeWhile_append_dropWhile]
  · have passes := List.all_eq_true.mp List.all_takeWhile '}' present
    simp at passes

/-- What a bare name goes on with, and what follows it. -/
theorem exists_bare (after : List Char) :
    ∃ name rest, after = name ++ rest ∧ (∀ c ∈ name, isBareChar c = true) ∧
      (∀ c ∈ rest.head?, isBareChar c = false) ∧ after.takeWhile isBareChar = name ∧
      after.dropWhile isBareChar = rest :=
  ⟨_, _, List.takeWhile_append_dropWhile.symm, List.all_eq_true.mp List.all_takeWhile,
    head?_dropWhile_stop, rfl, rfl⟩

theorem splits_read {text : List Char} (sound : ∀ token ∈ read text, token.isSound = true) :
    Splits text (read text) := by
  fun_induction read text with
  | case1 => exact .nil
  | case2 c rest notDollar ih =>
    exact .plain notDollar (ih fun token later => sound token (List.mem_cons_of_mem _ later))
  | case3 c isDollar => exact absurd (sound _ List.mem_cons_self) (by decide)
  | case4 c isDollar after ih =>
    cases Decidable.not_not.mp isDollar
    exact .dollar (ih fun token later => sound token (List.mem_cons_of_mem _ later))
  | case5 c isDollar after none =>
    exact absurd (sound _ List.mem_cons_self) Bool.false_ne_true
  | case6 c isDollar after stop beyond found ih =>
    cases Decidable.not_not.mp isDollar
    obtain ⟨name, rfl, noBrace, taken⟩ := exists_braced found
    rw [taken]
    exact .braced noBrace (ih fun token later => sound token (List.mem_cons_of_mem _ later))
  | case7 c isDollar start after _ _ begins ih =>
    cases Decidable.not_not.mp isDollar
    obtain ⟨name, rest, apart, goesOn, ends, taken, dropped⟩ := exists_bare after
    rw [dropped] at ih
    rw [taken, dropped]
    rw [apart]
    refine .bare begins goesOn ends (ih fun token later => ?_)
    exact sound token (List.mem_cons_of_mem _ (dropped ▸ later))
  | case8 c isDollar start after _ _ notStart =>
    exact absurd (sound _ List.mem_cons_self) Bool.false_ne_true

theorem Splits.sound {text : List Char} {tokens : List Token} (splits : Splits text tokens) :
    ∀ token ∈ tokens, token.isSound = true := by
  induction splits with
  | nil => exact fun _ none => nomatch none
  | plain _ _ ih => exact List.forall_mem_cons.mpr ⟨rfl, ih⟩
  | dollar _ ih => exact List.forall_mem_cons.mpr ⟨rfl, ih⟩
  | braced _ _ ih => exact List.forall_mem_cons.mpr ⟨rfl, ih⟩
  | bare _ _ _ _ ih => exact List.forall_mem_cons.mpr ⟨rfl, ih⟩

/-- A text splits into the tokens that are read from it, if none of them is a mistake, and into no
others. -/
theorem splits_iff_read {text : List Char} {tokens : List Token} :
    Splits text tokens ↔ read text = tokens ∧ ∀ token ∈ tokens, token.isSound = true := by
  constructor
  · intro splits
    exact ⟨splits.read_eq, splits.sound⟩
  · rintro ⟨rfl, sound⟩
    exact splits_read sound

/-! ### Replacing -/

theorem exists_lookUp_iff {definitions : Definitions} {name : List Char} :
    (∃ text, meaning.lookUp definitions name = .ok text) ↔
      definitions.contains (lowercased (.ofList name)) = true := by
  unfold meaning.lookUp SortedMap.contains
  cases definitions.get? (lowercased (.ofList name)) with
  | none => simp
  | some value => simp

/-- A token has a meaning if it is no mistake and the name it refers to is defined. -/
theorem exists_meaning_iff {definitions : Definitions} {token : Token} :
    (∃ text, token.meaning definitions = .ok text) ↔
      token.isSound = true ∧ ∀ name ∈ token.reference?,
        definitions.contains (lowercased (.ofList name)) = true := by
  cases token with
  | plain c => simp [meaning, isSound, reference?]
  | dollar => simp [meaning, isSound, reference?]
  | bare name => simpa [meaning, isSound, reference?] using exists_lookUp_iff
  | braced name => simpa [meaning, isSound, reference?] using exists_lookUp_iff
  | unterminated rest => simp [meaning, isSound]
  | lone rest => simp [meaning, isSound]

/-- Tokens have meanings one after another if each of them has one. -/
theorem exists_expand_iff {definitions : Definitions} {tokens : List Token} :
    (∃ result, expand definitions tokens = .ok result) ↔
      ∀ token ∈ tokens, ∃ text, token.meaning definitions = .ok text := by
  induction tokens with
  | nil => simp [expand]
  | cons token rest ih =>
    rw [List.forall_mem_cons, ← ih, expand]
    cases token.meaning definitions with
    | error problem => simp
    | ok text =>
      cases expand definitions rest with
      | error problem => simp
      | ok later => simp

end Token

/-- The references of a text are replaced exactly if it splits and defines every name that it refers
to. -/
theorem exists_substitute_iff {definitions : Definitions} {text : List Char} :
    (∃ result, substitute definitions text = .ok result) ↔
      ∃ tokens, Token.Splits text tokens ∧
        ∀ token ∈ tokens, ∀ name ∈ token.reference?,
          definitions.contains (lowercased (.ofList name)) = true := by
  unfold substitute
  rw [Token.exists_expand_iff]
  constructor
  · intro meanings
    have each := fun token present => Token.exists_meaning_iff.mp (meanings token present)
    exact ⟨_, Token.splits_read fun token present => (each token present).1,
      fun token present => (each token present).2⟩
  · rintro ⟨tokens, splits, defined⟩ token present
    obtain ⟨rfl, sound⟩ := Token.splits_iff_read.mp splits
    exact Token.exists_meaning_iff.mpr ⟨sound token present, defined token present⟩

/-! ### Doubled dollar signs -/

/-- The text with its dollar signs doubled. -/
def doubled : List Char → List Char
  | [] => []
  | c :: rest => if c = '$' then '$' :: '$' :: doubled rest else c :: doubled rest

/-- A text with its dollar signs doubled stands for the text. -/
theorem substitute_doubled (definitions : Definitions) (text : List Char) :
    substitute definitions (doubled text) = .ok text := by
  unfold substitute
  induction text with
  | nil => rw [doubled, Token.read.eq_def]; rfl
  | cons c rest ih =>
    rw [doubled]
    split
    · next isDollar =>
      rw [Token.read_dollar, Token.expand, ih, isDollar]
      rfl
    · next notDollar =>
      rw [Token.read_plain notDollar, Token.expand, ih]
      rfl

end StoreTopology
