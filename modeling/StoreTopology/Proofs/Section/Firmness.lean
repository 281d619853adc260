/-
**Which values stand for something without blanks at its ends.**

A value that is written has no blanks at its ends, and one of an option is not empty. What it stands
for may be another matter, since a name may be defined without a value: a reference to it leaves
nothing behind, and what stood beside it comes to the end.

* `Token.Vanish`: tokens that stand for nothing;
* `IsFirm`: a value that has something other than a blank at both ends, past tokens that vanish;
* `isFirm_iff`: these are the values that stand for something without blanks at its ends;
* `isFirm_of_noEmpty`: all of them are, if no name is defined without a value.
-/

import StoreTopology.Proofs.Section.Definitions
import StoreTopology.Proofs.Section.LineForm

namespace StoreTopology

open Text

/-! ### The two ends of a list -/

/-- One of the two ends of a list. -/
inductive Side where
  | start
  | finish

namespace Side

variable {α β : Type} {side : Side} {list : List α}

/-- The list as it is read from the end. -/
def view : Side → List α → List α
  | start, list => list
  | finish, list => list.reverse

theorem mem_view {item : α} : item ∈ side.view list ↔ item ∈ list := by
  cases side with
  | start => exact Iff.rfl
  | finish => exact List.mem_reverse

theorem view_eq_nil_iff : side.view list = [] ↔ list = [] := by
  cases side with
  | start => exact Iff.rfl
  | finish => exact List.reverse_eq_nil_iff

/-- A text put together of pieces is read from the end piece by piece. -/
theorem view_flatten (side : Side) (pieces : List (List α)) :
    side.view pieces.flatten = ((side.view pieces).map side.view).flatten := by
  cases side with
  | start =>
    show pieces.flatten = (pieces.map id).flatten
    rw [List.map_id]
  | finish => exact List.reverse_flatten.trans (by rw [← List.map_reverse]; rfl)

theorem forall₂_view {R : α → β → Prop} {other : List β} (related : List.Forall₂ R list other) :
    List.Forall₂ R (side.view list) (side.view other) := by
  cases side with
  | start => exact related
  | finish => exact List.forall₂_reverse_iff.mpr related

end Side

/-- At its beginning, the text has a character that is no blank. -/
def Marked (text : List Char) : Prop := ∃ c ∈ text.head?, isBlank c = false

theorem marked_append {text rest : List Char} :
    Marked (text ++ rest) ↔ Marked text ∨ text = [] ∧ Marked rest := by
  cases text with
  | nil => simp [Marked]
  | cons c others => simp [Marked]

/-- A text has no blank at either end and is not empty. -/
theorem forall_marked_iff {text : List Char} :
    (∀ side : Side, Marked (side.view text)) ↔ text ≠ [] ∧ Trimmed text := by
  constructor
  · intro marked
    obtain ⟨first, isFirst, firstMarked⟩ := marked .start
    obtain ⟨last, isLast, lastMarked⟩ := marked .finish
    rw [Side.view, List.head?_reverse] at isLast
    refine ⟨List.ne_nil_of_mem (List.mem_of_mem_head? isFirst), ?_, ?_⟩
    · intro c isC
      cases Option.some.inj (isFirst.symm.trans isC)
      exact firstMarked
    · intro c isC
      cases Option.some.inj (isLast.symm.trans isC)
      exact lastMarked
  · rintro ⟨notEmpty, starts, ends⟩ side
    cases side with
    | start =>
      have isFirst := List.head?_eq_some_head notEmpty
      exact ⟨_, isFirst, starts _ isFirst⟩
    | finish =>
      have isLast := List.getLast?_eq_some_getLast notEmpty
      exact ⟨_, List.head?_reverse.trans isLast, ends _ isLast⟩

/-! ### Tokens at an end -/

/-- Tokens stand for nothing: they all refer to values of which the same holds. -/
inductive Token.Vanish (said : List Line) : List Token → Prop
  | nil : Vanish said []
  | cons {token : Token} {value : List Char} {rest : List Token}
      (refers : token.RefersTo said value) (inside : Vanish said (Token.read value))
      (later : Vanish said rest) : Vanish said (token :: rest)

/-- Of tokens that are read from an end, the first that does not vanish is no blank there. -/
inductive IsFirmAt (said : List Line) (side : Side) : List Token → Prop
  | plain {c : Char} {rest : List Token} (notBlank : isBlank c = false) :
      IsFirmAt said side (.plain c :: rest)
  | dollar {rest : List Token} : IsFirmAt said side (.dollar :: rest)
  | inside {token : Token} {value : List Char} {rest : List Token}
      (refers : token.RefersTo said value)
      (firm : IsFirmAt said side (side.view (Token.read value))) :
      IsFirmAt said side (token :: rest)
  | past {token : Token} {value : List Char} {rest : List Token}
      (refers : token.RefersTo said value) (vanish : Token.Vanish said (Token.read value))
      (later : IsFirmAt said side rest) : IsFirmAt said side (token :: rest)

/-- A value as it is written has something other than a blank at both ends, past tokens that
vanish. -/
def IsFirm (said : List Line) (value : List Char) : Prop :=
  ∀ side : Side, IsFirmAt said side (side.view (Token.read value))

namespace Token

variable {last : Definitions} {said settled : List Line} {side : Side} {token : Token}
  {tokens : List Token} {value text piece : List Char} {pieces : List (List Char)}

/-- A token that refers to a value stands for what this stands for. -/
theorem substitute_of_refersTo (settles : List.Forall₂ (SettlesTo last) said settled)
    (refers : token.RefersTo said value) (stands : StandsFor last token piece) :
    substitute last value = .ok piece := by
  obtain ⟨name, isName, isDefinition⟩ := refers
  obtain ⟨text, replaced, known⟩ := exists_of_definition settles isDefinition
  have same : ∀ {own : String}, last.get? (lowercased (.ofList name)) = some own →
      own.toList = text := by
    intro own found
    rw [known] at found
    rw [← Option.some.inj found, String.toList_ofList]
  cases stands with
  | plain c => cases isName
  | dollar => cases isName
  | bare isDefined =>
    cases isName
    rw [same isDefined, replaced]
  | braced isDefined =>
    cases isName
    rw [same isDefined, replaced]

/-- A token that refers to a value stands for what the tokens of this stand for, put together. -/
theorem exists_pieces_of_refersTo (settles : List.Forall₂ (SettlesTo last) said settled)
    (refers : token.RefersTo said value) (stands : StandsFor last token piece) :
    ∃ inner, List.Forall₂ (StandsFor last) (read value) inner ∧ piece = inner.flatten :=
  expand_eq_ok_iff.mp (substitute_of_refersTo settles refers stands)

/-- A token that stands for something refers to a value, unless it stands for itself. -/
theorem exists_refersTo (settles : settleAll .empty said = .ok (settled, last))
    (stands : StandsFor last token piece) :
    (∃ c, token = .plain c ∧ piece = [c]) ∨ (token = .dollar ∧ piece = ['$']) ∨
      ∃ value, token.RefersTo said value := by
  have defined : ∀ {name : List Char} {own : String},
      last.get? (lowercased (.ofList name)) = some own →
        ∃ value, Line.definition (lowercased (.ofList name)) value ∈ said := by
    intro name own found
    have known : last.contains (lowercased (.ofList name)) = true := by
      rw [SortedMap.contains, found]
      rfl
    have present := ((contains_of_settleAll settles _).mp known).resolve_left Bool.false_ne_true
    obtain ⟨line, inSaid, defines⟩ := List.mem_filterMap.mp present
    cases line with
    | definition _ value =>
      cases defines
      exact ⟨value, inSaid⟩
    | _ => cases defines
  cases stands with
  | plain c => exact .inl ⟨c, rfl, rfl⟩
  | dollar => exact .inr (.inl ⟨rfl, rfl⟩)
  | bare isDefined =>
    obtain ⟨value, inSaid⟩ := defined isDefined
    exact .inr (.inr ⟨value, _, rfl, inSaid⟩)
  | braced isDefined =>
    obtain ⟨value, inSaid⟩ := defined isDefined
    exact .inr (.inr ⟨value, _, rfl, inSaid⟩)

/-- Tokens that vanish stand for nothing. -/
theorem Vanish.flatten_eq_nil (settles : List.Forall₂ (SettlesTo last) said settled)
    (vanish : Vanish said tokens) (stand : List.Forall₂ (StandsFor last) tokens pieces) :
    pieces.flatten = [] := by
  induction vanish generalizing pieces with
  | nil =>
    cases stand
    rfl
  | cons refers _ _ ihInside ih =>
    cases stand with
    | cons stands others =>
      obtain ⟨inner, standInside, whole⟩ := exists_pieces_of_refersTo settles refers stands
      rw [List.flatten_cons, whole, ihInside standInside, ih others]
      rfl

/-- Tokens that are firm at an end stand for something that is no blank there. -/
theorem marked_of_isFirmAt (settles : List.Forall₂ (SettlesTo last) said settled)
    (firm : IsFirmAt said side tokens) (stand : List.Forall₂ (StandsFor last) tokens pieces) :
    Marked (pieces.map side.view).flatten := by
  induction firm generalizing pieces with
  | plain notBlank =>
    cases stand with
    | cons stands _ =>
      cases stands
      rw [List.map_cons, List.flatten_cons]
      exact marked_append.mpr (.inl ⟨_, by cases side <;> rfl, notBlank⟩)
  | dollar =>
    cases stand with
    | cons stands _ =>
      cases stands
      rw [List.map_cons, List.flatten_cons]
      exact marked_append.mpr (.inl ⟨'$', by cases side <;> rfl, by decide⟩)
  | inside refers _ ih =>
    cases stand with
    | cons stands _ =>
      obtain ⟨inner, standInside, whole⟩ := exists_pieces_of_refersTo settles refers stands
      have here := ih (Side.forall₂_view standInside)
      rw [← Side.view_flatten, ← whole] at here
      rw [List.map_cons, List.flatten_cons]
      exact marked_append.mpr (.inl here)
  | past refers vanish _ ih =>
    cases stand with
    | cons stands others =>
      obtain ⟨inner, standInside, whole⟩ := exists_pieces_of_refersTo settles refers stands
      rw [vanish.flatten_eq_nil settles standInside] at whole
      rw [List.map_cons, List.flatten_cons]
      exact marked_append.mpr (.inr ⟨Side.view_eq_nil_iff.mpr whole, ih others⟩)

/-- What a value stands for is told by its tokens: they vanish if it is nothing, and are firm at an
end where it is no blank. -/
structure Tells (last : Definitions) (said : List Line) (value : List Char) : Prop where
  vanish : substitute last value = .ok [] → Vanish said (read value)
  firm : ∀ text, substitute last value = .ok text → ∀ side : Side, Marked (side.view text) →
    IsFirmAt said side (side.view (read value))

theorem vanish_of_flatten_eq_nil (settles : settleAll .empty said = .ok (settled, last))
    (tells : ∀ token ∈ tokens, ∀ inner, token.RefersTo said inner → Tells last said inner)
    (stand : List.Forall₂ (StandsFor last) tokens pieces) (nothing : pieces.flatten = []) :
    Vanish said tokens := by
  induction stand with
  | nil => exact .nil
  | cons stands _ ih =>
    obtain ⟨here, others⟩ := List.forall_mem_cons.mp tells
    rw [List.flatten_cons, List.append_eq_nil_iff] at nothing
    obtain ⟨rfl, nothingLater⟩ := nothing
    rcases exists_refersTo settles stands with ⟨c, _, none⟩ | ⟨_, none⟩ | ⟨inner, refers⟩
    · cases none
    · cases none
    · have replaced := substitute_of_refersTo (settlesTo_of_settleAll settles).2 refers stands
      exact .cons refers ((here inner refers).vanish replaced) (ih others nothingLater)

theorem isFirmAt_of_marked (settles : settleAll .empty said = .ok (settled, last))
    (tells : ∀ token ∈ tokens, ∀ inner, token.RefersTo said inner → Tells last said inner)
    (stand : List.Forall₂ (StandsFor last) tokens pieces)
    (marked : Marked (pieces.map side.view).flatten) : IsFirmAt said side tokens := by
  induction stand with
  | nil =>
    obtain ⟨_, none, _⟩ := marked
    cases none
  | cons stands _ ih =>
    obtain ⟨here, others⟩ := List.forall_mem_cons.mp tells
    rw [List.map_cons, List.flatten_cons] at marked
    have single : ∀ c : Char, side.view [c] = [c] := fun c => by cases side <;> rfl
    rcases exists_refersTo settles stands with ⟨c, rfl, rfl⟩ | ⟨rfl, rfl⟩ | ⟨inner, refers⟩
    · rw [single] at marked
      obtain ⟨_, ⟨⟩, notBlank⟩ := marked
      exact .plain notBlank
    · exact .dollar
    · have replaced := substitute_of_refersTo (settlesTo_of_settleAll settles).2 refers stands
      rcases marked_append.mp marked with inside | ⟨nothing, later⟩
      · exact .inside refers ((here inner refers).firm _ replaced side inside)
      · rw [Side.view_eq_nil_iff] at nothing
        subst nothing
        exact .past refers ((here inner refers).vanish replaced) (ih others later)

/-- Every value is told by its tokens. -/
theorem tells_of_settleAll (settles : settleAll .empty said = .ok (settled, last)) :
    ∀ line ∈ said, ∀ value ∈ line.value?, Tells last said value := by
  refine value_induction settles fun line _ value _ tells => ⟨fun replaced => ?_, ?_⟩
  · obtain ⟨pieces, stand, nothing⟩ := expand_eq_ok_iff.mp replaced
    exact vanish_of_flatten_eq_nil settles tells stand nothing.symm
  · intro text replaced side marked
    obtain ⟨pieces, stand, whole⟩ := expand_eq_ok_iff.mp replaced
    rw [whole, Side.view_flatten] at marked
    refine isFirmAt_of_marked settles (fun token present => ?_) (Side.forall₂_view stand) marked
    exact tells token (Side.mem_view.mp present)

end Token

section Values

variable {last : Definitions} {said settled : List Line} {line : Line} {value text : List Char}

theorem isValue_of_isFormed (formed : line.IsFormed) (isValue : line.value? = some value) :
    Line.IsValue value := by
  cases formed with
  | definition _ isOwn =>
    cases isValue
    exact isOwn
  | option _ isOwn _ =>
    cases isValue
    exact isOwn
  | _ => cases isValue

/-- A character that is a token of a text is one of the text. -/
theorem mem_of_splits {tokens : List Token} (splits : Token.Splits text tokens) {c : Char}
    (isToken : Token.plain c ∈ tokens) : c ∈ text := by
  induction splits with
  | nil => cases isToken
  | plain _ _ ih =>
    rcases List.mem_cons.mp isToken with same | later
    · cases same
      exact List.mem_cons_self
    · exact List.mem_cons_of_mem _ (ih later)
  | dollar _ ih => simpa using .inr (ih (by simpa using isToken))
  | braced _ _ ih => simp [ih (by simpa using isToken)]
  | bare _ _ _ _ ih => simp [ih (by simpa using isToken)]

/-- The values that are firm are those that stand for something without blanks at its ends. -/
theorem isFirm_iff (settles : settleAll .empty said = .ok (settled, last)) (present : line ∈ said)
    (isValue : line.value? = some value) (replaced : substitute last value = .ok text) :
    IsFirm said value ↔ text ≠ [] ∧ Trimmed text := by
  rw [← forall_marked_iff]
  refine forall_congr' fun side => ⟨fun firm => ?_, fun marked => ?_⟩
  · obtain ⟨pieces, stand, whole⟩ := Token.expand_eq_ok_iff.mp replaced
    rw [whole, Side.view_flatten]
    exact Token.marked_of_isFirmAt (settlesTo_of_settleAll settles).2 firm (Side.forall₂_view stand)
  · have tells := Token.tells_of_settleAll settles line present value isValue
    exact tells.firm text replaced side marked

/-- What a value stands for is on one line. -/
theorem noLineFeed_of_substitute (settles : settleAll .empty said = .ok (settled, last))
    (formed : ∀ line ∈ said, line.IsFormed) :
    ∀ line ∈ said, ∀ value ∈ line.value?, ∀ text, substitute last value = .ok text →
      '\n' ∉ text := by
  refine value_induction settles fun line present value isValue inner text replaced => ?_
  have isOwn := (isValue_of_isFormed (formed line present) isValue).noLineFeed
  obtain ⟨tokens, pieces, splits, stand, rfl⟩ := substitute_eq_ok_iff.mp replaced
  rw [splits.read_eq] at inner
  have plain : Token.plain '\n' ∉ tokens := fun isToken => isOwn (mem_of_splits splits isToken)
  clear splits replaced
  induction stand with
  | nil => exact List.not_mem_nil
  | cons stands _ ih =>
    obtain ⟨here, others⟩ := List.forall_mem_cons.mp inner
    rw [List.mem_cons, not_or] at plain
    rw [List.flatten_cons, List.mem_append, not_or]
    refine ⟨?_, ih others plain.2⟩
    rcases Token.exists_refersTo settles stands with ⟨c, rfl, rfl⟩ | ⟨_, rfl⟩ | ⟨value, refers⟩
    · rw [List.mem_singleton]
      rintro rfl
      exact plain.1 rfl
    · decide
    · exact here value refers _
        (Token.substitute_of_refersTo (settlesTo_of_settleAll settles).2 refers stands)

/-! ### Configurations without empty definitions -/

theorem eq_nil_of_splits_nil (splits : Token.Splits text []) : text = [] := by
  cases splits
  rfl

/-- If the last token of a text is a character, then it is the last character. -/
theorem getLast?_of_splits {tokens : List Token} (splits : Token.Splits text tokens) {c : Char}
    (isLast : tokens.getLast? = some (.plain c)) : text.getLast? = some c := by
  induction splits with
  | nil => cases isLast
  | @plain d rest tokens _ later ih =>
    cases tokens with
    | nil =>
      cases isLast
      rw [eq_nil_of_splits_nil later]
      rfl
    | cons _ _ =>
      rw [List.getLast?_cons_cons] at isLast
      rw [List.getLast?_cons, ih isLast]
      rfl
  | @dollar rest tokens later ih =>
    cases tokens with
    | nil => cases isLast
    | cons _ _ =>
      rw [List.getLast?_cons_cons] at isLast
      simp [List.getLast?_cons, ih isLast]
  | @braced name rest tokens _ later ih =>
    cases tokens with
    | nil => cases isLast
    | cons _ _ =>
      rw [List.getLast?_cons_cons] at isLast
      simp [List.getLast?_cons, List.getLast?_append, ih isLast]
  | @bare start name rest tokens _ _ _ later ih =>
    cases tokens with
    | nil => cases isLast
    | cons _ _ =>
      rw [List.getLast?_cons_cons] at isLast
      simp [List.getLast?_cons, List.getLast?_append, ih isLast]

/-- If the first token of a text from an end is a character, then the text begins with it there. -/
theorem head?_view_of_splits {tokens rest : List Token} {side : Side} {c : Char}
    (splits : Token.Splits text tokens) (first : side.view tokens = .plain c :: rest) :
    (side.view text).head? = some c := by
  cases side with
  | start =>
    obtain rfl : tokens = .plain c :: rest := first
    cases splits
    rfl
  | finish =>
    have isLast : tokens.getLast? = some (.plain c) := by
      rw [← List.head?_reverse, show tokens.reverse = .plain c :: rest from first, List.head?_cons]
    rw [Side.view, List.head?_reverse]
    exact getLast?_of_splits splits isLast

/-- All values are firm that are not empty themselves, if no name is defined without a value. -/
theorem isFirm_of_noEmpty (settles : settleAll .empty said = .ok (settled, last))
    (formed : ∀ line ∈ said, line.IsFormed) (noEmpty : ∀ name, Line.definition name [] ∉ said) :
    ∀ line ∈ said, ∀ value ∈ line.value?, IsFirm said value := by
  refine value_induction settles fun line present value isValue inner side => ?_
  have notEmpty : value ≠ [] := by
    cases formed line present with
    | @definition name _ _ _ =>
      cases isValue
      exact fun empty => noEmpty name (empty ▸ present)
    | option _ _ notEmpty =>
      cases isValue
      exact notEmpty
    | _ => cases isValue
  have written := forall_marked_iff.mpr
    ⟨notEmpty, (isValue_of_isFormed (formed line present) isValue).trimmed⟩
  obtain ⟨text, replaced⟩ :=
    exists_substitute_of_value (settlesTo_of_settleAll settles).2 present isValue
  obtain ⟨tokens, pieces, splits, stand, _⟩ := substitute_eq_ok_iff.mp replaced
  rw [splits.read_eq] at inner ⊢
  have standView : List.Forall₂ (Token.StandsFor last) (side.view tokens) (side.view pieces) :=
    Side.forall₂_view stand
  cases first : side.view tokens with
  | nil =>
    obtain rfl := Side.view_eq_nil_iff.mp first
    exact absurd (eq_nil_of_splits_nil splits) notEmpty
  | cons token rest =>
    have isToken : token ∈ tokens := Side.mem_view.mp (first ▸ List.mem_cons_self)
    rw [first] at standView
    obtain ⟨piece, others, stands, _, _⟩ := List.forall₂_cons_left_iff.mp standView
    rcases Token.exists_refersTo settles stands with ⟨c, rfl, _⟩ | ⟨rfl, _⟩ | ⟨value, refers⟩
    · obtain ⟨d, isFirst, notBlank⟩ := written side
      rw [head?_view_of_splits splits first] at isFirst
      cases isFirst
      exact .plain notBlank
    · exact .dollar
    · exact .inside refers (inner token isToken value refers side)

end Values

end StoreTopology
