/-
**The layout of a text does not matter.**

* `classify_of_idle`: a line whose first character that is no blank begins a comment says nothing, and
  neither does a blank line;
* `parseLines_congr`: lines that say the same have the same sections;
* `parseLines_insert`: one more line that says nothing only moves the lines after it;
* `parse_eq_parseLines`: a text has the sections of each list of lines that it can be taken as;
* `parse_layout`: blanks at the ends of lines do not matter, and a line that says nothing only moves
  the numbers of those after it.
-/

import Mathlib.Data.List.TakeWhile
import StoreTopology.Proofs.Section.Moving
import StoreTopology.Proofs.Section.Renumbering

namespace StoreTopology

open Text

/-! ### Lines that say nothing -/

/-- The first character of the line that is no blank, if there is one, begins a comment. -/
def IsIdle (raw : List Char) : Prop := ∀ c ∈ raw.find? (fun c => !isBlank c), c = '#'

instance : DecidablePred IsIdle := fun raw =>
  Option.decidableForallMem (raw.find? fun c => !isBlank c)

/-- A text that does not begin with a blank keeps its first character. -/
theorem head?_trimEnd {c : Char} (notBlank : isBlank c = false) (rest : List Char) :
    (trimEnd (c :: rest)).head? = some c := by
  have stays : ([c].dropWhile isBlank) = [c] :=
    List.dropWhile_cons_of_neg (by rw [notBlank]; exact Bool.false_ne_true)
  rw [trimEnd, List.reverse_cons, List.dropWhile_append]
  split
  · rw [stays]
    rfl
  · rw [List.reverse_append]
    rfl

theorem head?_trim (raw : List Char) : (trim raw).head? = raw.find? (fun c => !isBlank c) := by
  rw [List.find?_not_eq_head?_dropWhile, trim, trimStart]
  cases rest : raw.dropWhile isBlank with
  | nil => rfl
  | cons c others =>
    have notBlank : isBlank c = false := head?_dropWhile_stop c (by rw [rest]; rfl)
    exact head?_trimEnd notBlank others

theorem classify_of_idle {raw : List Char} (idle : IsIdle raw) :
    Line.classify raw = .ok .blank := by
  rw [IsIdle, ← head?_trim] at idle
  unfold Line.classify
  dsimp only
  cases begins : trim raw with
  | nil => rfl
  | cons c rest =>
    rw [begins] at idle
    obtain rfl := idle c rfl
    rfl

/-! ### Lists of lines -/

namespace Outline

variable {outline : Outline} {number : Nat}

/-- Lines are read by what they say. -/
theorem readLines_congr {raws others : List (List Char)}
    (same : raws.map Line.classify = others.map Line.classify) :
    outline.readLines number raws = outline.readLines number others := by
  induction raws generalizing others outline number with
  | nil =>
    cases List.map_eq_nil_iff.mp same.symm
    rfl
  | cons raw rest ih =>
    obtain ⟨other, later, rfl, first, sameRest⟩ := List.map_eq_cons_iff.mp same.symm
    have alike : outline.readLine number other = outline.readLine number raw := by
      unfold readLine
      rw [first]
    rw [readLines, readLines, alike]
    cases outline.readLine number raw with
    | error error => rfl
    | ok next => exact ih sameRest.symm

/-- A line that says nothing leaves the outline as it is. -/
theorem readLines_of_idle {inserted : List Char} (idle : IsIdle inserted)
    (rest : List (List Char)) :
    outline.readLines number (inserted :: rest) = outline.readLines (number + 1) rest := by
  refine readLines_cons_of_ok ?_ rest
  unfold readLine
  rw [classify_of_idle idle]
  rfl

end Outline

theorem parseLines_eq_bind (raws : List (List Char)) :
    parseLines raws = Outline.readLines {} 1 raws >>= Outline.finish := by
  unfold parseLines
  cases Outline.readLines {} 1 raws with
  | error error => rfl
  | ok outline => rfl

/-- Lines that say the same have the same sections. -/
theorem parseLines_congr {raws others : List (List Char)}
    (same : raws.map Line.classify = others.map Line.classify) :
    parseLines raws = parseLines others := by
  rw [parseLines_eq_bind, parseLines_eq_bind, Outline.readLines_congr same]

/-- A line that says nothing may stand behind the others. -/
theorem parseLines_append_idle {inserted : List Char} (idle : IsIdle inserted)
    (raws : List (List Char)) : parseLines (raws ++ [inserted]) = parseLines raws := by
  rw [parseLines_eq_bind, parseLines_eq_bind, Outline.readLines_append]
  cases Outline.readLines {} 1 raws with
  | error error => rfl
  | ok between =>
    show between.readLines _ [inserted] >>= _ = _
    rw [Outline.readLines_of_idle idle]
    rfl

/-- What the number of a line becomes if a line is put in after so many others. -/
def numberAfter (position number : Nat) : Nat :=
  if number ≤ position then number else number + 1

/-- One more line that says nothing moves the numbers of those after it, and nothing else. -/
theorem parseLines_insert {inserted : List Char} (idle : IsIdle inserted)
    (before after : List (List Char)) :
    parseLines (before ++ inserted :: after) =
      ((parseLines (before ++ after)).map
        (List.map (Section.renumbered (numberAfter before.length)))).mapError
          (ParseError.renumbered (numberAfter before.length)) := by
  have stays : ∀ i < before.length, numberAfter before.length (1 + i) = 1 + i :=
    fun i within => if_pos (Nat.one_add i ▸ within)
  have moves : ∀ i < after.length,
      numberAfter before.length (1 + before.length + i) = 1 + before.length + 1 + i := by
    intro i _
    rw [numberAfter, if_neg (by omega), Nat.add_right_comm]
  -- The lines before are read to something in which no number changes.
  have own : Outline.readLines {} 1 before =
      ((Outline.readLines {} 1 before).map (Outline.renumbered (numberAfter before.length))).mapError
        (ParseError.renumbered (numberAfter before.length)) := Outline.readLines_renumbered {} stays
  rw [parseLines_eq_bind, parseLines_eq_bind, Outline.readLines_append, Outline.readLines_append]
  cases reads : Outline.readLines {} 1 before with
  | error error =>
    rw [reads] at own
    exact congrArg Except.error (Except.error.inj own)
  | ok between =>
    rw [reads] at own
    have same : between = between.renumbered (numberAfter before.length) := Except.ok.inj own
    have later := Outline.readLines_renumbered between moves
    rw [← same] at later
    show between.readLines _ (inserted :: after) >>= _ =
      ((between.readLines _ after >>= _).map _).mapError _
    rw [Outline.readLines_of_idle idle, later]
    cases between.readLines (1 + before.length) after with
    | error error => rfl
    | ok last => exact last.finish_renumbered

/-! ### Texts -/

/-- A text has the sections of each list of lines that it can be taken as. -/
theorem parse_eq_parseLines {text : String} {raws : List (List Char)}
    (taken : TakenAs text.toList raws) : parse text = parseLines raws := by
  have isIdle : IsIdle [] := fun c absent => nomatch absent
  obtain ⟨extra, isExtra, same⟩ := taken.lines
  rw [parse, ← parseLines_congr (map_classify_of_sameLine same)]
  rcases isExtra with rfl | rfl
  · rw [List.append_nil]
  · rw [parseLines_append_idle isIdle]

/-- The lines are the same but for blanks at their ends. -/
def SameButBlanks (raw other : List Char) : Prop :=
  ∃ inner, Surrounds inner raw ∧ Surrounds inner other

theorem surrounds_self (raw : List Char) : Surrounds raw raw :=
  ⟨[], [], List.forall_mem_nil _, List.forall_mem_nil _, (List.append_nil raw).symm⟩

theorem parseLines_of_sameButBlanks {raws others : List (List Char)}
    (same : List.Forall₂ SameButBlanks raws others) : parseLines raws = parseLines others := by
  refine parseLines_congr (map_classify_of_trim (same.imp ?_))
  rintro raw other ⟨inner, isRaw, isOther⟩
  rw [isRaw.trim_eq, isOther.trim_eq]

/-- **The layout of a text does not matter.** With other blanks at the ends of its lines, it has the
same sections or is refused in the same way. With a comment or a blank line put in as well, the
sections or the error are the same but for the numbers of the lines after it, which grow by one. -/
theorem parse_layout {text other : String} {raws others : List (List Char)}
    (taken : TakenAs text.toList raws) (takenOther : TakenAs other.toList others) :
    (List.Forall₂ SameButBlanks raws others → parse other = parse text) ∧
      ∀ before inserted after, raws = before ++ after → IsIdle inserted →
        List.Forall₂ SameButBlanks (before ++ inserted :: after) others →
          (∀ forest, parse text = .ok forest → parse other =
            .ok (forest.map (Section.renumbered (numberAfter before.length)))) ∧
          ∀ error, parse text = .error error → parse other =
            .error (error.renumbered (numberAfter before.length)) := by
  rw [parse_eq_parseLines taken, parse_eq_parseLines takenOther]
  refine ⟨fun same => (parseLines_of_sameButBlanks same).symm, ?_⟩
  rintro before inserted after rfl idle same
  have inserts := parseLines_insert idle before after
  rw [parseLines_of_sameButBlanks same] at inserts
  rw [inserts]
  constructor
  · intro forest parsed
    rw [parsed]
    rfl
  · intro error refused
    rw [refused]
    rfl

/-- A text of three lines, and one that has a comment, other blanks and another end besides. -/
def tightText : String := "<zodb>\ncache 2\n</zodb>"

def looseText : String := " <zodb>\n\t# loose\ncache 2 \n</zodb>\r\n"

/-- The option and the closing tag stand one line further down. -/
theorem parse_layout_texts :
    parse tightText = .ok [⟨"zodb", none, [⟨"cache", "2", 2⟩], [], 1, 3⟩] ∧
      parse looseText = .ok [⟨"zodb", none, [⟨"cache", "2", 3⟩], [], 1, 4⟩] ∧
      parse mismatchedText = .error ⟨.mismatchedEnd "zodb" "demostorage" 2, 3⟩ ∧
      parse ("\n" ++ mismatchedText) = .error ⟨.mismatchedEnd "zodb" "demostorage" 3, 4⟩ := by
  have tight : parse tightText = .ok [⟨"zodb", none, [⟨"cache", "2", 2⟩], [], 1, 3⟩] :=
    toOption_eq_some_iff.mp (by decide +kernel)
  have mismatched : parse mismatchedText = .error ⟨.mismatchedEnd "zodb" "demostorage" 2, 3⟩ :=
    error?_eq_some_iff.mp (by decide +kernel)
  have takenTight : TakenAs tightText.toList
      ["<zodb>".toList, "cache 2".toList, "</zodb>".toList] :=
    ⟨.inr (by decide +kernel), by decide +kernel⟩
  have takenLoose : TakenAs looseText.toList
      [" <zodb>".toList, "\t# loose".toList, "cache 2 ".toList, "</zodb>\r".toList] :=
    ⟨.inl (by decide +kernel), by decide +kernel⟩
  have noBlank : ∀ c ∈ ([] : List Char), isBlank c = true := List.forall_mem_nil _
  have oneBlank : ∀ {c}, isBlank c = true → ∀ d ∈ [c], isBlank d = true :=
    fun {_} blank => List.forall_mem_singleton.mpr blank
  have around : List.Forall₂ SameButBlanks
      ["<zodb>".toList, "\t# loose".toList, "cache 2".toList, "</zodb>".toList]
      [" <zodb>".toList, "\t# loose".toList, "cache 2 ".toList, "</zodb>\r".toList] :=
    .cons ⟨_, surrounds_self _, [' '], [], oneBlank rfl, noBlank, by decide +kernel⟩
      (.cons ⟨_, surrounds_self _, surrounds_self _⟩
        (.cons ⟨_, surrounds_self _, [], [' '], noBlank, oneBlank rfl, by decide +kernel⟩
          (.cons ⟨_, surrounds_self _, [], ['\r'], noBlank, oneBlank rfl, by decide +kernel⟩
            .nil)))
  have takenMismatched : TakenAs mismatchedText.toList (mismatchedText.toList.splitOn '\n') :=
    ⟨.inr (by decide +kernel), by decide +kernel⟩
  have takenFurther : TakenAs ("\n" ++ mismatchedText).toList
      ([] :: mismatchedText.toList.splitOn '\n') :=
    ⟨.inr (by decide +kernel), by decide +kernel⟩
  have same : List.Forall₂ SameButBlanks ([] :: mismatchedText.toList.splitOn '\n')
      ([] :: mismatchedText.toList.splitOn '\n') :=
    List.forall₂_same.mpr fun raw _ => ⟨raw, surrounds_self raw, surrounds_self raw⟩
  have comment : IsIdle "\t# loose".toList := by decide +kernel
  have loose := (parse_layout takenTight takenLoose).2 ["<zodb>".toList] _ _ rfl comment around
  have further := (parse_layout takenMismatched takenFurther).2 [] [] _ rfl
    (fun c absent => nomatch absent) same
  exact ⟨tight, loose.1 _ tight, mismatched, further.2 _ mismatched⟩

end StoreTopology
