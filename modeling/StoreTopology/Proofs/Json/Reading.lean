/-
**Reading a JSON text piece by piece.**

* `JsonState.Reads`: some bytes lead from one state to another, whatever follows them; pieces are
  put together by `Reads.append`;
* `JsonState.Refuses`: some bytes lead to a problem, whatever follows them;
* `JsonState.Holds`: a state in which a whole value has been read. The reader learns where a number
  ends from the byte after it, so such a state is told by what a delimiter or the end does to it;
* `reads_text`, `reads_name`: a string inside the machine of its own.
-/

import StoreTopology.Json.Reader

namespace StoreTopology.JsonState

/-- The bytes lead from one state to another, whatever follows them. -/
def Reads (limit : Nat) (state : JsonState) (bytes : List UInt8) (next : JsonState) : Prop :=
  ∀ consumed rest,
    run limit state consumed (bytes ++ rest) = run limit next (consumed + bytes.length) rest

/-- The bytes lead to a problem, whatever follows them. -/
def Refuses (limit : Nat) (state : JsonState) (bytes : List UInt8) (problem : ReadProblem) : Prop :=
  ∀ consumed rest, ∃ count, run limit state consumed (bytes ++ rest) = .error (problem, count)

variable {limit : Nat} {state next last : JsonState} {bytes further : List UInt8} {byte : UInt8}
  {problem : ReadProblem}

theorem Reads.nil : Reads limit state [] state := fun _ _ => rfl

theorem Reads.single (stepped : state.step limit byte = .ok next) :
    Reads limit state [byte] next := by
  intro consumed rest
  rw [List.singleton_append, run, stepped]
  rfl

theorem Reads.append (first : Reads limit state bytes next)
    (second : Reads limit next further last) : Reads limit state (bytes ++ further) last := by
  intro consumed rest
  rw [List.append_assoc, first, second, List.length_append, Nat.add_assoc]

theorem Reads.cons (next : JsonState) (stepped : state.step limit byte = .ok next)
    (later : Reads limit next bytes last) : Reads limit state (byte :: bytes) last :=
  (Reads.single stepped).append later

theorem Refuses.single {back : Nat} (stepped : state.step limit byte = .error ⟨problem, back⟩) :
    Refuses limit state [byte] problem := by
  intro consumed rest
  rw [List.singleton_append, run, stepped]
  exact ⟨_, rfl⟩

theorem Refuses.append_right (refused : Refuses limit state bytes problem) :
    Refuses limit state (bytes ++ further) problem := by
  intro consumed rest
  rw [List.append_assoc]
  exact refused consumed (further ++ rest)

theorem Reads.refuses (first : Reads limit state bytes next)
    (second : Refuses limit next further problem) :
    Refuses limit state (bytes ++ further) problem := by
  intro consumed rest
  rw [List.append_assoc, first]
  exact second _ rest

/-! ### Whole values -/

/-- What may follow a value: a blank, a comma or a closing bracket. -/
def isDelimiter (byte : UInt8) : Bool :=
  isBlankByte byte || byte = 0x2c || byte = 0x5d || byte = 0x7d

/-- A whole value has been read, and the next byte tells what follows it. -/
structure Holds (limit : Nat) (state : JsonState) (frames : List JsonFrame) (value : Json) :
    Prop where
  next : ∀ byte, isDelimiter byte → state.step limit byte = stepAfter frames value byte
  finish : state.finish = finishAfter frames value

theorem holds_after (frames : List JsonFrame) (value : Json) :
    Holds limit ⟨frames, .after value⟩ frames value :=
  ⟨fun _ _ => rfl, rfl⟩

theorem Holds.reads {frames : List JsonFrame} {value : Json} (held : Holds limit state frames value)
    (delimiter : isDelimiter byte) (followed : stepAfter frames value byte = .ok next) :
    Reads limit state [byte] next :=
  .single ((held.next byte delimiter).trans followed)

/-! ### Blanks -/

/-- A phase that passes over blanks. -/
def PassesBlanks (limit : Nat) (state : JsonState) : Prop :=
  ∀ byte, isBlankByte byte → state.step limit byte = .ok state

theorem PassesBlanks.reads (passes : PassesBlanks limit state)
    (blank : ∀ byte ∈ bytes, isBlankByte byte) : Reads limit state bytes state := by
  induction bytes with
  | nil => exact .nil
  | cons byte rest ih =>
    refine .cons state (passes byte (blank byte List.mem_cons_self)) (ih fun other present => ?_)
    exact blank other (List.mem_cons_of_mem _ present)

theorem passesBlanks_value (frames : List JsonFrame) (place : ValuePlace) :
    PassesBlanks limit ⟨frames, .value place⟩ := fun byte blank => by
  show stepValue limit frames place byte = _
  rw [stepValue, if_pos blank]

theorem passesBlanks_member (frames : List JsonFrame) (before : List (String × Json))
    (first : Bool) : PassesBlanks limit ⟨frames, .member before first⟩ := fun byte blank => by
  show stepMember frames before first byte = _
  rw [stepMember, if_pos blank]

theorem passesBlanks_after (frames : List JsonFrame) (value : Json) :
    PassesBlanks limit ⟨frames, .after value⟩ := fun byte blank => by
  show stepAfter frames value byte = _
  unfold stepAfter
  rw [if_pos blank]

end StoreTopology.JsonState

namespace StoreTopology.TextState

/-- The bytes lead from one state of a string to another. -/
inductive Goes : TextState → List UInt8 → TextState → Prop where
  | nil (state : TextState) : Goes state [] state
  | cons {state last : TextState} {byte : UInt8} {bytes : List UInt8} (next : TextState)
      (stepped : state.step byte = .goesOn next) (later : Goes next bytes last) :
      Goes state (byte :: bytes) last

theorem Goes.append {state next last : TextState} {bytes further : List UInt8}
    (first : Goes state bytes next) (second : Goes next further last) :
    Goes state (bytes ++ further) last := by
  induction first with
  | nil => exact second
  | cons next stepped _ ih => exact .cons next stepped (ih second)

end StoreTopology.TextState

namespace StoreTopology.JsonState

variable {limit : Nat} {frames : List JsonFrame} {text next : TextState} {bytes : List UInt8}

/-- What a string's own machine reads is read of a string value. -/
theorem reads_text (goes : TextState.Goes text bytes next) :
    Reads limit ⟨frames, .text text⟩ bytes ⟨frames, .text next⟩ := by
  induction goes with
  | nil => exact .nil
  | cons _ stepped _ ih => exact .cons _ (by simp only [step, stepped]) ih

/-- What a string's own machine reads is read of a member's name. -/
theorem reads_name {before : List (String × Json)} (goes : TextState.Goes text bytes next) :
    Reads limit ⟨frames, .name before text⟩ bytes ⟨frames, .name before next⟩ := by
  induction goes with
  | nil => exact .nil
  | cons _ stepped _ ih => exact .cons _ (by simp only [step, stepped]) ih

end StoreTopology.JsonState
