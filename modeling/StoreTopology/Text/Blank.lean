/-
**Blanks, trimming and lines.**

* `isBlank`: the Unicode property White_Space;
* `trim`: a text without the blanks at its two ends (`trim_eq_self_iff`, `trim_trim`);
* `lines`: the lines of a text, each ended by a line feed, a carriage return before it belonging
  to the ending, and a last line without ending counted if it is not empty.
-/

import StoreTopology.Text.CodeRanges

namespace StoreTopology.Text

/-- The code points of blanks. -/
def blankRanges : CodeRanges where
  ranges :=
    [(0x9, 0xD), (0x20, 0x20), (0x85, 0x85), (0xA0, 0xA0), (0x1680, 0x1680), (0x2000, 0x200A),
     (0x2028, 0x2029), (0x202F, 0x202F), (0x205F, 0x205F), (0x3000, 0x3000)]
  isOrdered := by decide +kernel

def isBlank (c : Char) : Bool := blankRanges.contains c.toNat

/-! ### Trimming -/

def trimStart (text : List Char) : List Char := text.dropWhile isBlank

def trimEnd (text : List Char) : List Char := (text.reverse.dropWhile isBlank).reverse

/-- A text without the blanks at its two ends. -/
def trim (text : List Char) : List Char := trimEnd (trimStart text)

/-- Neither end of the text is a blank. -/
def Trimmed (text : List Char) : Prop :=
  (∀ c ∈ text.head?, isBlank c = false) ∧ (∀ c ∈ text.getLast?, isBlank c = false)

theorem dropWhile_eq_self {p : Char → Bool} {text : List Char}
    (stop : ∀ c ∈ text.head?, p c = false) : text.dropWhile p = text := by
  cases text with
  | nil => rfl
  | cons c rest => simp [stop c (by simp)]

theorem head?_dropWhile_stop {p : Char → Bool} {text : List Char} :
    ∀ c ∈ (text.dropWhile p).head?, p c = false := by
  induction text with
  | nil => simp
  | cons c rest ih =>
    rw [List.dropWhile_cons]
    split
    · exact ih
    · next stop => simpa using stop

theorem trim_of_trimmed {text : List Char} (trimmed : Trimmed text) : trim text = text := by
  have start : trimStart text = text := dropWhile_eq_self trimmed.1
  have finish : trimEnd text = text := by
    rw [trimEnd, dropWhile_eq_self (by simpa using trimmed.2), List.reverse_reverse]
  rw [trim, start, finish]

theorem trim_trimmed (text : List Char) : Trimmed (trim text) := by
  constructor
  · intro c present
    rw [trim, trimEnd, List.head?_reverse] at present
    have suffix : (trimStart text).reverse.dropWhile isBlank <:+ (trimStart text).reverse :=
      List.dropWhile_suffix _
    obtain ⟨dropped, split⟩ := suffix
    have last : (trimStart text).reverse.getLast? = some c := by
      rw [← split, List.getLast?_append, Option.mem_def.mp present]
      rfl
    rw [List.getLast?_reverse] at last
    exact head?_dropWhile_stop c last
  · intro c present
    rw [trim, trimEnd, List.getLast?_reverse] at present
    exact head?_dropWhile_stop c present

theorem trim_eq_self_iff {text : List Char} : trim text = text ↔ Trimmed text :=
  ⟨fun same => same ▸ trim_trimmed text, trim_of_trimmed⟩

@[simp] theorem trim_trim (text : List Char) : trim (trim text) = trim text :=
  trim_of_trimmed (trim_trimmed text)

/-! ### Lines -/

/-- The lines of a text. -/
def lines : List Char → List (List Char)
  | [] => []
  | '\r' :: '\n' :: rest => [] :: lines rest
  | '\n' :: rest => [] :: lines rest
  | c :: rest =>
    match lines rest with
    | [] => [[c]]
    | line :: later => (c :: line) :: later

end StoreTopology.Text
