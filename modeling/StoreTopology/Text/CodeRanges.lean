/-
**Sets of characters as sorted ranges of code points.**

A character class of a text standard is data: a list of ranges, each given by its first and last
code point, in increasing order. `CodeRanges` is such a list with its order. `contains` stops at the
first range beyond the character, and so decides membership (`contains_iff`). Two classes exclude
each other if their ranges lie `apart` (`not_contains_of_apart`).
-/

namespace StoreTopology.Text

/-- Every range begins beyond the bound or the range before it, and ends no earlier. -/
def orderedFrom (bound : Nat) : List (Nat × Nat) → Bool
  | [] => true
  | (first, last) :: rest => bound ≤ first && first ≤ last && orderedFrom (last + 1) rest

/-- Ranges of code points in increasing order, by first and last member. -/
structure CodeRanges where
  ranges : List (Nat × Nat)
  isOrdered : orderedFrom 0 ranges = true

namespace CodeRanges

/-- Look a code point up, leaving at the first range that begins beyond it. -/
def search : List (Nat × Nat) → Nat → Bool
  | [], _ => false
  | (first, last) :: rest, code =>
    if code < first then false else if code ≤ last then true else search rest code

/-- A code point lies in one of the ranges. -/
def contains (ranges : CodeRanges) (code : Nat) : Bool := search ranges.ranges code

theorem search_iff {ranges : List (Nat × Nat)} {bound : Nat}
    (ordered : orderedFrom bound ranges = true) (code : Nat) :
    search ranges code = true ↔ ∃ range ∈ ranges, range.1 ≤ code ∧ code ≤ range.2 := by
  have beyond : ∀ {rest : List (Nat × Nat)} {bound : Nat}, orderedFrom bound rest = true →
      ∀ range ∈ rest, bound ≤ range.1 := by
    intro rest
    induction rest with
    | nil => simp
    | cons head rest ih =>
      intro bound ordered range present
      simp only [orderedFrom, Bool.and_eq_true, decide_eq_true_eq] at ordered
      rcases List.mem_cons.mp present with rfl | later
      · exact ordered.1.1
      · have := ih ordered.2 range later
        omega
  induction ranges generalizing bound with
  | nil => simp [search]
  | cons head rest ih =>
    obtain ⟨first, last⟩ := head
    simp only [orderedFrom, Bool.and_eq_true, decide_eq_true_eq] at ordered
    rw [search]
    split
    case isTrue below =>
      simp only [Bool.false_eq_true, List.mem_cons, exists_eq_or_imp, false_iff]
      rintro (inside | ⟨range, present, inside⟩)
      · omega
      · have := beyond ordered.2 range present
        omega
    case isFalse notBelow =>
      split
      case isTrue inside =>
        simp only [List.mem_cons, exists_eq_or_imp, true_iff]
        exact .inl ⟨by omega, inside⟩
      case isFalse outside =>
        refine (ih ordered.2).trans ?_
        simp only [List.mem_cons, exists_eq_or_imp]
        constructor
        · exact .inr
        · rintro (inside | inRest)
          · omega
          · exact inRest

theorem contains_iff {ranges : CodeRanges} {code : Nat} :
    ranges.contains code = true ↔ ∃ range ∈ ranges.ranges, range.1 ≤ code ∧ code ≤ range.2 :=
  search_iff ranges.isOrdered code

/-! ### Ranges that lie apart -/

/-- One range. -/
def single (first last : Nat) (inOrder : first ≤ last) : CodeRanges where
  ranges := [(first, last)]
  isOrdered := by simpa [orderedFrom] using inOrder

/-- No range of the one list meets a range of the other. -/
def apart (first second : List (Nat × Nat)) : Bool :=
  first.all fun range => second.all fun other =>
    Nat.blt range.2 other.1 || Nat.blt other.2 range.1

variable {first second ranges : CodeRanges} {code : Nat}

/-- A code point of the one list is none of the other if the lists lie apart. -/
theorem not_contains_of_apart (isApart : apart first.ranges second.ranges = true)
    (inFirst : first.contains code = true) : second.contains code = false := by
  rw [← Bool.not_eq_true]
  intro inSecond
  obtain ⟨range, present, below, above⟩ := contains_iff.mp inFirst
  obtain ⟨other, otherPresent, otherBelow, otherAbove⟩ := contains_iff.mp inSecond
  have all := List.all_eq_true.mp isApart range present
  have away := List.all_eq_true.mp all other otherPresent
  rw [Bool.or_eq_true, Nat.blt_eq, Nat.blt_eq] at away
  omega

theorem not_contains_of_apart_single {begin stop : Nat}
    (isApart : apart [(begin, stop)] ranges.ranges = true) (above : begin ≤ code)
    (below : code ≤ stop) : ranges.contains code = false := by
  have inside : (single begin stop (Nat.le_trans above below)).contains code = true :=
    contains_iff.mpr ⟨_, List.mem_singleton_self _, above, below⟩
  exact not_contains_of_apart isApart inside

end CodeRanges

end StoreTopology.Text
