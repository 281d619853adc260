/-
**Texts that are cut after a line, and texts taken as lists of lines.**

* `firstLines`: the beginning of a text up to the end of a line;
* `lines_firstLines`: it has the lines up to there;
* `Surrounds.trim_eq`: blanks around a line do not change what is left of it;
* `exists_lines_joined`: lines that were each ended by a line feed are read back, but that carriage
  returns at their ends may be missing;
* `TakenAs`: the lists of lines that a text can be taken as, and that each text has (`exists_takenAs`).
-/

import Mathlib.Data.List.Forall2
import StoreTopology.Proofs.Text.Lines

namespace StoreTopology.Text

/-! ### Beginnings -/

/-- The beginning of a text that so many lines take up, with their endings. -/
def firstLines : Nat → List Char → List Char
  | 0, _ => []
  | _ + 1, [] => []
  | count + 1, c :: rest =>
    c :: if c = '\n' then firstLines count rest else firstLines (count + 1) rest

theorem firstLines_lineFeed (count : Nat) (rest : List Char) :
    firstLines (count + 1) ('\n' :: rest) = '\n' :: firstLines count rest := by
  rw [firstLines, if_pos rfl]

theorem firstLines_cons {c : Char} (notFeed : c ≠ '\n') (count : Nat) (rest : List Char) :
    firstLines (count + 1) (c :: rest) = c :: firstLines (count + 1) rest := by
  rw [firstLines, if_neg notFeed]

theorem head?_firstLines (count : Nat) (text : List Char) :
    (firstLines (count + 1) text).head? = text.head? := by
  cases text with
  | nil => rfl
  | cons c rest => rfl

theorem consFirst_take (c : Char) (raws : List (List Char)) (count : Nat) :
    consFirst c (raws.take (count + 1)) = (consFirst c raws).take (count + 1) := by
  cases raws with
  | nil => simp [consFirst]
  | cons line later => simp [consFirst]

/-- The beginning of a text up to the end of a line has the lines up to there. -/
theorem lines_firstLines (text : List Char) (count : Nat) :
    lines (firstLines count text) = (lines text).take count := by
  induction text using lines_induction generalizing count with
  | nil =>
    cases count with
    | zero => rfl
    | succ count => rfl
  | lineFeed rest ih =>
    cases count with
    | zero => rfl
    | succ count =>
      rw [firstLines_lineFeed, lines_lineFeed, lines_lineFeed, ih, List.take_succ_cons]
  | carriageReturn rest ih =>
    cases count with
    | zero => rfl
    | succ count =>
      rw [firstLines_cons (by decide), firstLines_lineFeed, lines_return, lines_return, ih,
        List.take_succ_cons]
  | character c rest notFeed notReturn ih =>
    cases count with
    | zero => rfl
    | succ count =>
      have stays : c = '\r' → (firstLines (count + 1) rest).head? ≠ some '\n' := by
        rw [head?_firstLines]
        exact notReturn
      rw [firstLines_cons notFeed, lines_cons notFeed stays, ih, lines_cons notFeed notReturn,
        consFirst_take]

/-! ### Blanks at the ends of a line -/

/-- The line holds the given characters, with blanks around them. -/
def Surrounds (inner raw : List Char) : Prop :=
  ∃ left right, (∀ c ∈ left, isBlank c = true) ∧ (∀ c ∈ right, isBlank c = true) ∧
    raw = left ++ inner ++ right

theorem trim_append_blanks {right : List Char} (blank : ∀ c ∈ right, isBlank c = true)
    (raw : List Char) : trim (raw ++ right) = trim raw := by
  have reversed : ∀ c ∈ right.reverse, isBlank c = true :=
    fun c present => blank c (List.mem_reverse.mp present)
  unfold trim trimStart trimEnd
  rw [List.dropWhile_append]
  split
  · next empty =>
    have start : right.dropWhile isBlank = [] := by
      rw [← List.append_nil right, List.dropWhile_append_of_pos blank, List.dropWhile_nil]
    rw [List.isEmpty_iff.mp empty, start]
  · rw [List.reverse_append, List.dropWhile_append_of_pos reversed]

theorem Surrounds.trim_eq {inner raw : List Char} (surrounds : Surrounds inner raw) :
    trim raw = trim inner := by
  obtain ⟨left, right, before, after, rfl⟩ := surrounds
  rw [trim_append_blanks after, trim, trim, trimStart, List.dropWhile_append_of_pos before]
  rfl

/-- One line is the other, or has a carriage return at its end besides. -/
def SameLine (raw other : List Char) : Prop := other = raw ∨ other = raw ++ ['\r']

theorem SameLine.trim_eq {raw other : List Char} (same : SameLine raw other) :
    trim raw = trim other := by
  have isReturn : isBlank '\r' = true := by decide
  rcases same with rfl | rfl
  · rfl
  · rw [trim_append_blanks (List.forall_mem_singleton.mpr isReturn)]

theorem SameLine.cons {raw other : List Char} (same : SameLine raw other) (c : Char) :
    SameLine (c :: raw) (c :: other) := by
  rcases same with rfl | rfl
  · exact .inl rfl
  · exact .inr rfl

/-! ### Texts taken as lists of lines -/

/-- A line and its ending come first, a carriage return at the end of the line perhaps being a part of
the ending. -/
theorem exists_lines_append {raw : List Char} (noLineFeed : '\n' ∉ raw) (rest : List Char) :
    ∃ own, lines (raw ++ '\n' :: rest) = own :: lines rest ∧ SameLine own raw := by
  induction raw with
  | nil => exact ⟨[], lines_lineFeed rest, .inl rfl⟩
  | cons c raw ih =>
    rw [List.mem_cons, not_or] at noLineFeed
    obtain ⟨own, split, same⟩ := ih noLineFeed.2
    by_cases ending : c = '\r' ∧ raw = []
    · obtain ⟨rfl, rfl⟩ := ending
      exact ⟨[], lines_return rest, .inr rfl⟩
    · have notReturn : c = '\r' → (raw ++ '\n' :: rest).head? ≠ some '\n' := by
        intro isReturn begins
        cases raw with
        | nil => exact ending ⟨isReturn, rfl⟩
        | cons d others =>
          cases begins
          exact noLineFeed.2 List.mem_cons_self
      refine ⟨c :: own, ?_, same.cons c⟩
      rw [List.cons_append, lines_cons (Ne.symm noLineFeed.1) notReturn, split]
      rfl

/-- Lines that are each ended by a line feed come before the lines of what follows. -/
theorem exists_lines_joined {raws : List (List Char)} (noLineFeeds : ∀ raw ∈ raws, '\n' ∉ raw)
    (rest : List Char) :
    ∃ own, lines (joined raws ++ rest) = own ++ lines rest ∧ List.Forall₂ SameLine own raws := by
  induction raws with
  | nil => exact ⟨[], rfl, .nil⟩
  | cons raw others ih =>
    obtain ⟨first, later⟩ := List.forall_mem_cons.mp noLineFeeds
    obtain ⟨own, split, same⟩ := ih later
    obtain ⟨line, splitFirst, sameFirst⟩ := exists_lines_append first (joined others ++ rest)
    have whole : joined (raw :: others) ++ rest = raw ++ '\n' :: (joined others ++ rest) := by
      simp [joined]
    refine ⟨line :: own, ?_, .cons sameFirst same⟩
    rw [whole, splitFirst, split, List.cons_append]

/-- A text taken as a list of lines: each of them is ended by a line feed, the last one perhaps
without. -/
structure TakenAs (text : List Char) (raws : List (List Char)) : Prop where
  holds : HoldsLines text raws
  noLineFeed : ∀ raw ∈ raws, '\n' ∉ raw

/-- The lines of a text are those that it is taken as, but that a blank one at the end may be
missing. -/
theorem TakenAs.lines {text : List Char} {raws : List (List Char)} (taken : TakenAs text raws) :
    ∃ extra, (extra = [] ∨ extra = [[]]) ∧
      List.Forall₂ SameLine (lines text ++ extra) raws := by
  rcases taken.holds with rfl | ended
  · obtain ⟨own, split, same⟩ := exists_lines_joined taken.noLineFeed []
    rw [List.append_nil, Text.lines, List.append_nil] at split
    refine ⟨[], .inl rfl, ?_⟩
    rw [List.append_nil, split]
    exact same
  · rcases List.eq_nil_or_concat raws with rfl | ⟨others, final, rfl⟩
    · exact absurd ended (by simp [joined])
    · have parts := taken.noLineFeed
      rw [List.concat_eq_append] at ended parts ⊢
      obtain ⟨before, last⟩ := List.forall_mem_append.mp parts
      have single : joined [final] = final ++ ['\n'] := by simp [joined]
      rw [joined_append, single, ← List.append_assoc] at ended
      obtain rfl := List.append_cancel_right ended
      obtain ⟨own, split, same⟩ := exists_lines_joined before final
      rw [split]
      by_cases empty : final = []
      · subst empty
        refine ⟨[[]], .inr rfl, ?_⟩
        rw [Text.lines, List.append_nil]
        exact List.rel_append same (.cons (.inl rfl) .nil)
      · refine ⟨[], .inl rfl, ?_⟩
        rw [List.append_nil, lines_of_noLineFeed (last final List.mem_cons_self) empty]
        exact List.rel_append same (.cons (.inl rfl) .nil)

/-- Every text can be taken as a list of lines, one of which is there in any case. -/
theorem exists_takenAs (text : List Char) :
    ∃ raws, text ++ ['\n'] = joined raws ∧ ∀ raw ∈ raws, '\n' ∉ raw := by
  induction text with
  | nil => exact ⟨[[]], rfl, by simp⟩
  | cons c text ih =>
    obtain ⟨raws, ended, noLineFeed⟩ := ih
    by_cases feed : c = '\n'
    · refine ⟨[] :: raws, ?_, List.forall_mem_cons.mpr ⟨List.not_mem_nil, noLineFeed⟩⟩
      rw [List.cons_append, ended, feed]
      rfl
    · cases raws with
      | nil => exact absurd ended (by simp [joined])
      | cons raw later =>
        obtain ⟨first, others⟩ := List.forall_mem_cons.mp noLineFeed
        refine ⟨(c :: raw) :: later, ?_, List.forall_mem_cons.mpr ⟨?_, others⟩⟩
        · rw [List.cons_append, ended]
          rfl
        · exact fun present => (List.mem_cons.mp present).elim (Ne.symm feed) first

end StoreTopology.Text
