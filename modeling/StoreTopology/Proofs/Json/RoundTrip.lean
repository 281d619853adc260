/-
**A value is read back from its text on several lines.**

The writer has no limit on nesting, the reader has one:

* `readsWithin_prettyAt`: the text of a value without floating point numbers is read as that value
  if the containers around it and in it stay within the limit, and is refused for its depth if they
  do not, whatever follows;
* `read_pretty`, `read_pretty_tooDeep`: the same for a whole text.
-/

import StoreTopology.Proofs.Json.Depth
import StoreTopology.Proofs.Json.Integers
import StoreTopology.Proofs.Json.Strings

namespace StoreTopology.JsonState

open Text Json

/-- The bytes lead to a state of some kind if they fit into the limit, and are refused for their
depth if they do not. -/
structure ReadsWithin (fits : Prop) (limit : Nat) (state : JsonState) (bytes : List UInt8)
    (done : JsonState → Prop) : Prop where
  reads : fits → ∃ next, Reads limit state bytes next ∧ done next
  refuses : ¬ fits → Refuses limit state bytes .tooDeep

section Composition

variable {fits first second : Prop} {limit : Nat} {state next : JsonState}
  {bytes further : List UInt8} {done last : JsonState → Prop}

theorem ReadsWithin.of_reads (done : JsonState → Prop) (reads : Reads limit state bytes next)
    (isDone : done next) : ReadsWithin True limit state bytes done :=
  ⟨fun _ => ⟨next, reads, isDone⟩, fun never => absurd trivial never⟩

theorem ReadsWithin.append (start : ReadsWithin first limit state bytes done)
    (finish : ∀ next, done next → ReadsWithin second limit next further last) :
    ReadsWithin (first ∧ second) limit state (bytes ++ further) last := by
  constructor
  · rintro ⟨firstFits, secondFits⟩
    obtain ⟨next, reads, isDone⟩ := start.reads firstFits
    obtain ⟨end', readsOn, isLast⟩ := (finish next isDone).reads secondFits
    exact ⟨end', reads.append readsOn, isLast⟩
  · intro tooDeep
    by_cases firstFits : first
    · obtain ⟨next, reads, isDone⟩ := start.reads firstFits
      exact reads.refuses ((finish next isDone).refuses fun fits => tooDeep ⟨firstFits, fits⟩)
    · exact (start.refuses firstFits).append_right

theorem Reads.within (reads : Reads limit state bytes next)
    (finish : ReadsWithin fits limit next further last) :
    ReadsWithin fits limit state (bytes ++ further) last := by
  constructor
  · intro within
    obtain ⟨end', readsOn, isLast⟩ := finish.reads within
    exact ⟨end', reads.append readsOn, isLast⟩
  · exact fun tooDeep => reads.refuses (finish.refuses tooDeep)

theorem ReadsWithin.congr (same : first ↔ second)
    (within : ReadsWithin first limit state bytes done) :
    ReadsWithin second limit state bytes done :=
  ⟨fun fits => within.reads (same.mpr fits), fun tooDeep =>
    within.refuses fun fits => tooDeep (same.mp fits)⟩

theorem ReadsWithin.imp (within : ReadsWithin fits limit state bytes done)
    (weaker : ∀ next, done next → last next) : ReadsWithin fits limit state bytes last := by
  refine ⟨fun isFit => ?_, within.refuses⟩
  obtain ⟨next, reads, isDone⟩ := within.reads isFit
  exact ⟨next, reads, weaker next isDone⟩

end Composition

/-! ### Separators -/

variable {limit : Nat} {frames : List JsonFrame} {state : JsonState}

/-- The beginning of a line is blank. -/
theorem blank_newLine {depth : Nat} : ∀ byte ∈ bytesOf (newLine depth), isBlankByte byte := by
  intro byte present
  rw [newLine, bytesOf_ofList] at present
  simp only [List.mem_flatMap, List.mem_cons, List.mem_replicate] at present
  obtain ⟨c, rfl | ⟨_, rfl⟩, inside⟩ := present
  · have : byte = 0x0a := List.mem_singleton.mp inside
    rw [this]
    rfl
  · have : byte = 0x20 := List.mem_singleton.mp inside
    rw [this]
    rfl

theorem PassesBlanks.reads_newLine (passes : PassesBlanks limit state) (depth : Nat) :
    Reads limit state (bytesOf (newLine depth)) state :=
  passes.reads blank_newLine

/-- A value ends at the beginning of a line. -/
theorem Holds.reads_newLine {value : Json} (held : Holds limit state frames value) (depth : Nat) :
    Reads limit state (bytesOf (newLine depth)) ⟨frames, .after value⟩ := by
  have split : bytesOf (newLine depth) =
      0x0a :: bytesOf (String.ofList (List.replicate (2 * depth) ' ')) := by
    rw [newLine, bytesOf_ofList, bytesOf_ofList]
    rfl
  rw [split]
  refine .cons _ (held.next 0x0a rfl) ((passesBlanks_after frames value).reads ?_)
  intro byte present
  exact blank_newLine byte (split ▸ List.mem_cons_of_mem _ present)

/-- The bracket after the last element. -/
theorem Holds.reads_closeArray {before : List Json} {value : Json}
    (held : Holds limit state (.array before :: frames) value) (depth : Nat) :
    Reads limit state (bytesOf (newLine depth ++ "]"))
      ⟨frames, .after (.array (before.reverse ++ [value]))⟩ := by
  rw [bytesOf_append]
  refine (held.reads_newLine depth).append (.single ?_)
  show stepAfter _ value 0x5d = _
  rw [← List.reverse_cons]
  rfl

/-- The bracket after the last member. -/
theorem Holds.reads_closeObject {before : List (String × Json)} {name : String} {value : Json}
    (held : Holds limit state (.member before name :: frames) value) (depth : Nat) :
    Reads limit state (bytesOf (newLine depth ++ "\x7d"))
      ⟨frames, .after (.object (before.reverse ++ [(name, value)]))⟩ := by
  rw [bytesOf_append]
  refine (held.reads_newLine depth).append (.single ?_)
  show stepAfter _ value 0x7d = _
  rw [← List.reverse_cons]
  rfl

/-- The beginning of a member up to its value. -/
theorem reads_memberStart (before : List (String × Json)) (first : Bool) (depth : Nat)
    (name : String) :
    Reads limit ⟨frames, .member before first⟩
      (bytesOf (newLine depth) ++ (bytesOf (stringText name) ++ bytesOf ": "))
      ⟨.member before name :: frames, .value .memberValue⟩ := by
  refine ((passesBlanks_member frames before first).reads_newLine depth).append ?_
  refine (reads_memberName frames before first name).append ?_
  refine .cons ⟨.member before name :: frames, .value .memberValue⟩ rfl ?_
  exact .single rfl

/-- The bracket before the elements or members. -/
theorem readsWithin_bracket {fits : Prop} {place : ValuePlace} {bracket : UInt8}
    {inside : JsonState} {further : List UInt8} {last : JsonState → Prop}
    (opens : step limit ⟨frames, .value place⟩ bracket =
      if frames.length < limit then .ok inside else refuse .tooDeep)
    (within : frames.length < limit → ReadsWithin fits limit inside further last) :
    ReadsWithin (frames.length < limit ∧ fits) limit ⟨frames, .value place⟩ (bracket :: further)
      last := by
  by_cases room : frames.length < limit
  · rw [if_pos room] at opens
    exact ((Reads.single opens).within (within room)).congr (by simp [room])
  · rw [if_neg room] at opens
    refine ⟨fun fits => absurd fits.1 room, fun _ => ?_⟩
    exact (Refuses.single opens).append_right

theorem step_openArray (place : ValuePlace) :
    step limit ⟨frames, .value place⟩ 0x5b =
      if frames.length < limit then .ok ⟨.array [] :: frames, .value .firstElement⟩
      else refuse .tooDeep := rfl

theorem step_openObject (place : ValuePlace) :
    step limit ⟨frames, .value place⟩ 0x7b =
      if frames.length < limit then .ok ⟨frames, .member [] true⟩ else refuse .tooDeep := rfl

/-! ### Values -/

/-- The text of a word that stands for a value. -/
theorem reads_word {place : ValuePlace} (value : Json) (text : String)
    (word : value = .null ∧ text = "null" ∨
      ∃ truth, value = .bool truth ∧ text = boolText truth) :
    Reads limit ⟨frames, .value place⟩ (bytesOf text) ⟨frames, .after value⟩ := by
  rcases word with ⟨rfl, rfl⟩ | ⟨truth, rfl, rfl⟩
  · exact .cons _ rfl (.cons _ rfl (.cons _ rfl (.single rfl)))
  · cases truth
    · exact .cons _ rfl (.cons _ rfl (.cons _ rfl (.cons _ rfl (.single rfl))))
    · exact .cons _ rfl (.cons _ rfl (.cons _ rfl (.single rfl)))

/-- The text of a value without containers, which needs no room. -/
theorem readsWithin_of_holds {value : Json} {place : ValuePlace} {next : JsonState}
    {bytes : List UInt8} (room : frames.length ≤ limit) (flat : value.depth = 0)
    (reads : Reads limit ⟨frames, .value place⟩ bytes next)
    (held : Holds limit next frames value) :
    ReadsWithin (frames.length + value.depth ≤ limit) limit ⟨frames, .value place⟩ bytes
      (Holds limit · frames value) :=
  (ReadsWithin.of_reads (Holds limit · frames value) reads held).congr (by
    rw [flat]
    exact ⟨fun _ => room, fun _ => trivial⟩)

mutual

/-- The text of a value is read as the value if it fits into the limit, and is refused for its depth
if it does not. -/
theorem readsWithin_prettyAt (depth : Nat) : (value : Json) → value.isFloatFree = true →
    ∀ (frames : List JsonFrame) (place : ValuePlace), frames.length ≤ limit →
      ReadsWithin (frames.length + value.depth ≤ limit) limit ⟨frames, .value place⟩
        (bytesOf (value.prettyAt depth)) (Holds limit · frames value)
  | .null, _, frames, place, room => by
    rw [prettyAt]
    exact readsWithin_of_holds room rfl (reads_word .null _ (.inl ⟨rfl, rfl⟩))
      (holds_after frames _)
  | .bool truth, _, frames, place, room => by
    rw [prettyAt]
    exact readsWithin_of_holds room rfl (reads_word (.bool truth) _ (.inr ⟨truth, rfl, rfl⟩))
      (holds_after frames _)
  | .number (.integer value exact), _, frames, place, room => by
    obtain ⟨next, reads, held⟩ := exists_reads_integer place value exact
    rw [prettyAt]
    exact readsWithin_of_holds room rfl reads held
  | .number (.float _), floatFree, _, _, _ => by
    rw [isFloatFree] at floatFree
    exact absurd floatFree Bool.false_ne_true
  | .string text, _, frames, place, room => by
    rw [prettyAt]
    exact readsWithin_of_holds room rfl (reads_stringText frames place text)
      (holds_after frames _)
  | .array [], _, frames, place, _ => by
    rw [prettyAt]
    have closed : ReadsWithin True limit ⟨.array [] :: frames, .value .firstElement⟩ [0x5d]
        (Holds limit · frames (.array [])) :=
      .of_reads _ (.single rfl) (holds_after frames _)
    refine (readsWithin_bracket (step_openArray place) fun _ => closed).congr ?_
    rw [Json.depth, elementsDepth, and_true]
    omega
  | .array (element :: rest), floatFree, frames, place, _ => by
    rw [isFloatFree, elementsFloatFree, Bool.and_eq_true] at floatFree
    have inner : frames.length < limit → _ := fun room =>
      (readsWithin_prettyAt (depth + 1) element floatFree.1 (.array [] :: frames) .firstElement
        room).append fun next held =>
          readsWithin_prettyElements (depth + 1) depth rest floatFree.2 frames [] element next room
            held
    have started : frames.length < limit → _ := fun room =>
      ((passesBlanks_value (.array [] :: frames) .firstElement).reads_newLine
        (depth + 1)).within (inner room)
    rw [prettyAt]
    simp only [bytesOf_append, List.append_assoc]
    simp only [bytesOf_append] at started
    refine ((readsWithin_bracket (step_openArray place) started).congr ?_).imp ?_
    · rw [Json.depth, elementsDepth, List.length_cons]
      omega
    · rintro next rfl
      exact holds_after frames _
  | .object [], _, frames, place, _ => by
    rw [prettyAt]
    have closed : ReadsWithin True limit ⟨frames, .member [] true⟩ [0x7d]
        (Holds limit · frames (.object [])) :=
      .of_reads _ (.single rfl) (holds_after frames _)
    refine (readsWithin_bracket (step_openObject place) fun _ => closed).congr ?_
    rw [Json.depth, membersDepth, and_true]
    omega
  | .object ((name, value) :: rest), floatFree, frames, place, _ => by
    rw [isFloatFree, membersFloatFree, Bool.and_eq_true] at floatFree
    have inner : frames.length < limit → _ := fun room =>
      (readsWithin_prettyAt (depth + 1) value floatFree.1 (.member [] name :: frames) .memberValue
        room).append fun next held =>
          readsWithin_prettyMembers (depth + 1) depth rest floatFree.2 frames [] name value next
            room held
    have started : frames.length < limit → _ := fun room =>
      (reads_memberStart [] true (depth + 1) name).within (inner room)
    rw [prettyAt]
    simp only [bytesOf_append, List.append_assoc]
    simp only [bytesOf_append, List.append_assoc] at started
    refine ((readsWithin_bracket (step_openObject place) started).congr ?_).imp ?_
    · rw [Json.depth, membersDepth, List.length_cons]
      omega
    · rintro next rfl
      exact holds_after frames _

/-- The text of the further elements up to the closing bracket. -/
theorem readsWithin_prettyElements (depth closing : Nat) : (rest : List Json) →
    elementsFloatFree rest = true → ∀ (frames : List JsonFrame) (before : List Json)
      (value : Json) (state : JsonState), frames.length < limit →
      Holds limit state (.array before :: frames) value →
        ReadsWithin (frames.length + 1 + elementsDepth rest ≤ limit) limit state
          (bytesOf (prettyElements depth rest) ++ bytesOf (newLine closing ++ "]"))
          (· = ⟨frames, .after (.array (before.reverse ++ value :: rest))⟩)
  | [], _, frames, before, value, state, room, held => by
    rw [prettyElements]
    have closed := ReadsWithin.of_reads
      (· = ⟨frames, .after (.array (before.reverse ++ [value]))⟩)
      (held.reads_closeArray closing) rfl
    refine closed.congr ?_
    rw [elementsDepth]
    exact ⟨fun _ => room, fun _ => trivial⟩
  | element :: rest, floatFree, frames, before, value, state, room, held => by
    rw [elementsFloatFree, Bool.and_eq_true] at floatFree
    have comma : Reads limit state (bytesOf ",")
        ⟨.array (value :: before) :: frames, .value .nextElement⟩ := held.reads rfl rfl
    have inner := (readsWithin_prettyAt depth element floatFree.1
      (.array (value :: before) :: frames) .nextElement room).append fun next held =>
        readsWithin_prettyElements depth closing rest floatFree.2 frames (value :: before) element
          next room held
    have started := comma.within (((passesBlanks_value (.array (value :: before) :: frames)
      .nextElement).reads_newLine depth).within inner)
    rw [prettyElements]
    simp only [bytesOf_append, List.append_assoc] at started ⊢
    refine (started.congr ?_).imp ?_
    · rw [elementsDepth, List.length_cons]
      omega
    · rintro next rfl
      rw [List.reverse_cons, List.append_assoc, List.singleton_append]

/-- The text of the further members up to the closing bracket. -/
theorem readsWithin_prettyMembers (depth closing : Nat) : (rest : List (String × Json)) →
    membersFloatFree rest = true → ∀ (frames : List JsonFrame) (before : List (String × Json))
      (name : String) (value : Json) (state : JsonState), frames.length < limit →
      Holds limit state (.member before name :: frames) value →
        ReadsWithin (frames.length + 1 + membersDepth rest ≤ limit) limit state
          (bytesOf (prettyMembers depth rest) ++ bytesOf (newLine closing ++ "\x7d"))
          (· = ⟨frames, .after (.object (before.reverse ++ (name, value) :: rest))⟩)
  | [], _, frames, before, name, value, state, room, held => by
    rw [prettyMembers]
    have closed := ReadsWithin.of_reads
      (· = ⟨frames, .after (.object (before.reverse ++ [(name, value)]))⟩)
      (held.reads_closeObject closing) rfl
    refine closed.congr ?_
    rw [membersDepth]
    exact ⟨fun _ => room, fun _ => trivial⟩
  | (name', element) :: rest, floatFree, frames, before, name, value, state, room, held => by
    rw [membersFloatFree, Bool.and_eq_true] at floatFree
    have comma : Reads limit state (bytesOf ",")
        ⟨frames, .member ((name, value) :: before) false⟩ := held.reads rfl rfl
    have inner := (readsWithin_prettyAt depth element floatFree.1
      (.member ((name, value) :: before) name' :: frames) .memberValue room).append
        fun next held => readsWithin_prettyMembers depth closing rest floatFree.2 frames
          ((name, value) :: before) name' element next room held
    have started := comma.within
      ((reads_memberStart ((name, value) :: before) false depth name').within inner)
    rw [prettyMembers]
    simp only [bytesOf_append, List.append_assoc] at started ⊢
    refine (started.congr ?_).imp ?_
    · rw [membersDepth, List.length_cons]
      omega
    · rintro next rfl
      rw [List.reverse_cons, List.append_assoc, List.singleton_append]

end

end StoreTopology.JsonState

namespace StoreTopology.Json

open Text JsonState

/-! ### Whole texts -/

variable {limit : Nat} {value : Json}

/-- A value without floating point numbers is read back from its text if the limit allows. -/
theorem readWithin_pretty (floatFree : value.isFloatFree = true) (shallow : value.depth ≤ limit) :
    readWithin limit (bytesOf value.pretty) = .ok value := by
  have room : ([] : List JsonFrame).length ≤ limit := Nat.zero_le _
  have within := readsWithin_prettyAt 0 value floatFree [] .top room
  obtain ⟨next, reads, held⟩ := within.reads (by simpa using shallow)
  have whole := reads 0 []
  rw [List.append_nil] at whole
  rw [readWithin, pretty, whole, run, held.finish]
  rfl

/-- The text of a value that is nested deeper than the limit is refused for its depth. -/
theorem readWithin_pretty_tooDeep (floatFree : value.isFloatFree = true)
    (deep : limit < value.depth) :
    ∃ error, readWithin limit (bytesOf value.pretty) = .error error ∧
      error.problem = .tooDeep := by
  have room : ([] : List JsonFrame).length ≤ limit := Nat.zero_le _
  have within := readsWithin_prettyAt 0 value floatFree [] .top room
  have notWithin : ¬ ([] : List JsonFrame).length + value.depth ≤ limit := by simpa using deep
  obtain ⟨count, refused⟩ := within.refuses notWithin 0 []
  rw [List.append_nil] at refused
  rw [readWithin, pretty, refused]
  exact ⟨_, rfl, rfl⟩

end StoreTopology.Json
