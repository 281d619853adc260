/-
**The lines of a text that was written line by line.**

* `takeWhile_append_of_stop`: a run of characters is split from what follows it;
* `HoldsLines.lines_eq`: lines without a line feed, each ended by one, are read back;
* `isBlank_of_isWordChar`: no word character is a blank.
-/

import StoreTopology.Text.Blank
import StoreTopology.Text.WordChar

namespace StoreTopology.Text

/-! ### Runs of characters -/

/-- The characters of a run are taken, and what ends it is left. -/
theorem takeWhile_append_of_stop {p : Char → Bool} {name rest : List Char}
    (all : ∀ c ∈ name, p c = true) (stop : ∀ c ∈ rest.head?, p c = false) :
    (name ++ rest).takeWhile p = name ∧ (name ++ rest).dropWhile p = rest := by
  rw [List.takeWhile_append_of_pos all, List.dropWhile_append_of_pos all]
  cases rest with
  | nil => simp
  | cons c after =>
    have stops : p c = false := stop c rfl
    simp [stops]

/-! ### Lines -/

/-- The text of lines, each ended by a line feed. -/
def joined (raws : List (List Char)) : List Char := raws.flatMap (· ++ ['\n'])

/-- The text is one line: it holds no line feed, and its end is no part of an ending. -/
structure IsLine (raw : List Char) : Prop where
  noLineFeed : '\n' ∉ raw
  noReturn : raw.getLast? ≠ some '\r'

theorem IsLine.tail {c : Char} {rest : List Char} (isLine : IsLine (c :: rest)) : IsLine rest := by
  refine ⟨fun present => isLine.noLineFeed (List.mem_cons_of_mem _ present), fun last => ?_⟩
  apply isLine.noReturn
  rw [List.getLast?_cons, last]
  rfl

theorem lines_lineFeed (rest : List Char) : lines ('\n' :: rest) = [] :: lines rest := by
  rw [lines]

theorem lines_return (rest : List Char) : lines ('\r' :: '\n' :: rest) = [] :: lines rest := by
  rw [lines]

/-- A character in front of the first of some lines. -/
def consFirst (c : Char) : List (List Char) → List (List Char)
  | [] => [[c]]
  | line :: later => (c :: line) :: later

/-- A character that is no part of an ending belongs to the first line. -/
theorem lines_cons {c : Char} {rest : List Char} (notFeed : c ≠ '\n')
    (notReturn : c = '\r' → rest.head? ≠ some '\n') :
    lines (c :: rest) = consFirst c (lines rest) := by
  rw [lines.eq_def]
  split
  · next same => cases same
  · next after same =>
    obtain ⟨rfl, rfl⟩ := List.cons.inj same
    exact absurd rfl (notReturn rfl)
  · next after same =>
    obtain ⟨rfl, _⟩ := List.cons.inj same
    exact absurd rfl notFeed
  · next c' after _ _ same =>
    obtain ⟨rfl, rfl⟩ := List.cons.inj same
    cases lines rest with
    | nil => rfl
    | cons line later => rfl

/-- A text begins with the ending of a line, or with a character of the line. -/
theorem lines_induction {P : List Char → Prop} (nil : P [])
    (lineFeed : ∀ rest, P rest → P ('\n' :: rest))
    (carriageReturn : ∀ rest, P rest → P ('\r' :: '\n' :: rest))
    (character : ∀ c rest, c ≠ '\n' → (c = '\r' → rest.head? ≠ some '\n') → P rest →
      P (c :: rest)) (text : List Char) : P text := by
  have noEnding : ∀ {c : Char} {rest : List Char},
      (∀ after, c = '\r' → rest = '\n' :: after → False) → c = '\r' → rest.head? ≠ some '\n' := by
    intro c rest noReturn isReturn begins
    obtain ⟨after, split⟩ := List.head?_eq_some_iff.mp begins
    exact noReturn after isReturn split
  induction text using lines.induct with
  | case1 => exact nil
  | case2 rest ih => exact carriageReturn rest ih
  | case3 rest ih => exact lineFeed rest ih
  | case4 c rest noReturn noFeed _ ih => exact character c rest noFeed (noEnding noReturn) ih
  | case5 c rest noReturn noFeed _ _ _ ih => exact character c rest noFeed (noEnding noReturn) ih

theorem lines_append_lineFeed {raw : List Char} (isLine : IsLine raw) (rest : List Char) :
    lines (raw ++ '\n' :: rest) = raw :: lines rest := by
  induction raw with
  | nil => exact lines_lineFeed rest
  | cons c raw ih =>
    have notFeed : c ≠ '\n' := fun same => isLine.noLineFeed (same ▸ List.mem_cons_self)
    have notReturn : c = '\r' → (raw ++ '\n' :: rest).head? ≠ some '\n' := by
      rintro rfl begins
      cases raw with
      | nil => exact isLine.noReturn rfl
      | cons d others =>
        cases begins
        exact isLine.tail.noLineFeed List.mem_cons_self
    rw [List.cons_append, lines_cons notFeed notReturn, ih isLine.tail]
    rfl

/-- A text without line feeds is one line, unless it is empty. -/
theorem lines_of_noLineFeed {raw : List Char} (noLineFeed : '\n' ∉ raw) (notEmpty : raw ≠ []) :
    lines raw = [raw] := by
  induction raw with
  | nil => exact absurd rfl notEmpty
  | cons c rest ih =>
    rw [List.mem_cons, not_or] at noLineFeed
    have notReturn : c = '\r' → rest.head? ≠ some '\n' :=
      fun _ begins => noLineFeed.2 (List.mem_of_mem_head? begins)
    rw [lines_cons (Ne.symm noLineFeed.1) notReturn]
    by_cases last : rest = []
    · rw [last, lines]
      rfl
    · rw [ih noLineFeed.2 last]
      rfl

theorem joined_append (raws more : List (List Char)) :
    joined (raws ++ more) = joined raws ++ joined more := List.flatMap_append

/-- The line feed at the end may be missing. -/
theorem lines_joined_append {raws : List (List Char)} {last : List Char}
    (areLines : ∀ raw ∈ raws, IsLine raw) (noLineFeed : '\n' ∉ last) (notEmpty : last ≠ []) :
    lines (joined raws ++ last) = raws ++ [last] := by
  induction raws with
  | nil => exact lines_of_noLineFeed noLineFeed notEmpty
  | cons raw rest ih =>
    obtain ⟨first, others⟩ := List.forall_mem_cons.mp areLines
    have split : joined (raw :: rest) ++ last = raw ++ '\n' :: (joined rest ++ last) := by
      simp [joined]
    rw [split, lines_append_lineFeed first, ih others, List.cons_append]

/-- A text holds lines if each of them is ended by a line feed, the last one perhaps without. -/
def HoldsLines (text : List Char) (raws : List (List Char)) : Prop :=
  text = joined raws ∨ text ++ ['\n'] = joined raws

/-- Lines that were each ended by a line feed are read back. -/
theorem lines_joined {raws : List (List Char)} (areLines : ∀ raw ∈ raws, IsLine raw) :
    lines (joined raws) = raws := by
  induction raws with
  | nil => rw [joined, List.flatMap_nil, lines]
  | cons raw rest ih =>
    obtain ⟨first, others⟩ := List.forall_mem_cons.mp areLines
    have split : joined (raw :: rest) = raw ++ '\n' :: joined rest := by simp [joined]
    rw [split, lines_append_lineFeed first, ih others]

/-- The lines that a text holds are read back. -/
theorem HoldsLines.lines_eq {text : List Char} {raws : List (List Char)}
    (holds : HoldsLines text raws) (areLines : ∀ raw ∈ raws, IsLine raw)
    (notEmpty : [] ∉ raws) : lines text = raws := by
  rcases holds with rfl | ended
  · exact lines_joined areLines
  · rcases List.eq_nil_or_concat raws with rfl | ⟨others, last, rfl⟩
    · exact absurd ended (by simp [joined])
    · simp only [List.concat_eq_append] at areLines notEmpty ended ⊢
      rw [joined_append] at ended
      have single : joined [last] = last ++ ['\n'] := by simp [joined]
      rw [single, ← List.append_assoc] at ended
      obtain rfl := List.append_cancel_right ended
      have isLast : last ∈ others ++ [last] := List.mem_append_right _ List.mem_cons_self
      refine lines_joined_append (fun raw present => ?_) (areLines last isLast).noLineFeed ?_
      · exact areLines raw (List.mem_append_left _ present)
      · rintro rfl
        exact notEmpty isLast

/-! ### Blanks and word characters -/

theorem isBlank_of_isWordChar {c : Char} (isWord : isWordChar c = true) : isBlank c = false :=
  CodeRanges.not_contains_of_apart (by decide +kernel) isWord

end StoreTopology.Text
