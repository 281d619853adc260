/-
**What is read is nested within the limit.**

`JsonState.IsWithin` says of a state that every value in it, and the containers around it, stay
within the limit. Each byte keeps it (`isWithin_step`), so every value that is read has it
(`depth_le_of_readWithin`).
-/

import StoreTopology.Proofs.Json.Depth
import StoreTopology.Json.Reader

namespace StoreTopology

/-- Every element before the place has room inside the containers. -/
def ElementsWithin (limit containers : Nat) (before : List Json) : Prop :=
  containers ≤ limit ∧ ∀ element ∈ before, element.depth + containers ≤ limit

/-- Every member before the place has room inside the containers. -/
def MembersWithin (limit containers : Nat) (before : List (String × Json)) : Prop :=
  containers ≤ limit ∧ ∀ member ∈ before, member.2.depth + containers ≤ limit

/-- An array has room where its elements have room inside one more container. -/
theorem ElementsWithin.depth_array {limit containers : Nat} {before : List Json}
    (within : ElementsWithin limit (containers + 1) before) :
    (Json.array before.reverse).depth + containers ≤ limit := by
  obtain ⟨fits, inside⟩ := within
  have bound : Json.elementsDepth before.reverse ≤ limit - (containers + 1) :=
    Json.elementsDepth_le.mpr fun element present => by
      have := inside element (List.mem_reverse.mp present)
      omega
  rw [Json.depth]
  omega

/-- An object has room where its members have room inside one more container. -/
theorem MembersWithin.depth_object {limit containers : Nat} {before : List (String × Json)}
    (within : MembersWithin limit (containers + 1) before) :
    (Json.object before.reverse).depth + containers ≤ limit := by
  obtain ⟨fits, inside⟩ := within
  have bound : Json.membersDepth before.reverse ≤ limit - (containers + 1) :=
    Json.membersDepth_le.mpr fun member present => by
      have := inside member (List.mem_reverse.mp present)
      omega
  rw [Json.depth]
  omega

namespace JsonState

/-- The parts of the open containers have room. -/
def FramesWithin (limit : Nat) : List JsonFrame → Prop
  | [] => True
  | .array before :: outer =>
    ElementsWithin limit (outer.length + 1) before ∧ FramesWithin limit outer
  | .member before _ :: outer =>
    MembersWithin limit (outer.length + 1) before ∧ FramesWithin limit outer

/-- The value of a phase has room inside some containers. -/
def PhaseWithin (limit containers : Nat) : JsonPhase → Prop
  | .value .firstElement => containers ≤ limit ∧ 0 < containers
  | .value _ | .numeral _ | .text _ => containers ≤ limit
  | .word _ value => containers ≤ limit ∧ value.depth = 0
  | .member before _ | .name before _ | .colon before _ =>
    MembersWithin limit (containers + 1) before
  | .after value => value.depth + containers ≤ limit

/-- Everything in the state stays within the limit. -/
structure IsWithin (limit : Nat) (state : JsonState) : Prop where
  frames : FramesWithin limit state.frames
  phase : PhaseWithin limit state.frames.length state.phase

variable {limit : Nat} {frames : List JsonFrame} {byte : UInt8} {next : JsonState}

/-- Inside the containers of a phase there is room for a value without containers. -/
theorem PhaseWithin.containers_le {containers : Nat} {place : ValuePlace}
    (within : PhaseWithin limit containers (.value place)) : containers ≤ limit := by
  cases place
  case firstElement => exact within.1
  all_goals exact within

/-- A step leads to what is within the limit if the state that it names is. -/
theorem isWithin_of_ok {state : JsonState} (stepped : (.ok state : Except Refusal _) = .ok next)
    (within : IsWithin limit state) : IsWithin limit next := by
  obtain rfl := Except.ok.inj stepped
  exact within

theorem isWithin_stepAfter {value : Json} (framesWithin : FramesWithin limit frames)
    (room : value.depth + frames.length ≤ limit)
    (stepped : stepAfter frames value byte = .ok next) : IsWithin limit next := by
  unfold stepAfter at stepped
  split at stepped
  · exact isWithin_of_ok stepped ⟨framesWithin, room⟩
  · split at stepped
    · exact absurd stepped (by simp [refuse])
    · next before outer =>
      obtain ⟨⟨fits, inside⟩, outerWithin⟩ := framesWithin
      have all : ∀ element ∈ value :: before, element.depth + (outer.length + 1) ≤ limit :=
        List.forall_mem_cons.mpr ⟨room, inside⟩
      split at stepped
      · exact isWithin_of_ok stepped ⟨⟨⟨fits, all⟩, outerWithin⟩, fits⟩
      · split at stepped
        · exact isWithin_of_ok stepped ⟨outerWithin, ElementsWithin.depth_array ⟨fits, all⟩⟩
        · exact absurd stepped (by simp [refuse])
    · next before name outer =>
      obtain ⟨⟨fits, inside⟩, outerWithin⟩ := framesWithin
      have all : ∀ member ∈ (name, value) :: before, member.2.depth + (outer.length + 1) ≤ limit :=
        List.forall_mem_cons.mpr ⟨room, inside⟩
      split at stepped
      · exact isWithin_of_ok stepped ⟨outerWithin, fits, all⟩
      · split at stepped
        · exact isWithin_of_ok stepped ⟨outerWithin, MembersWithin.depth_object ⟨fits, all⟩⟩
        · exact absurd stepped (by simp [refuse])

/-- An empty array takes the room of the container that was opened for it. -/
theorem isWithin_closeEmpty (framesWithin : FramesWithin limit frames)
    (phaseWithin : PhaseWithin limit frames.length (.value .firstElement)) :
    IsWithin limit ⟨frames.tail, .after (.array [])⟩ := by
  obtain ⟨fits, opened⟩ := phaseWithin
  cases frames with
  | nil => exact absurd opened (Nat.lt_irrefl 0)
  | cons frame outer =>
    have room : (Json.array []).depth + outer.length ≤ limit := by
      rw [Json.depth, Json.elementsDepth]
      rw [List.length_cons] at fits
      omega
    cases frame with
    | array before => exact ⟨framesWithin.2, room⟩
    | member before name => exact ⟨framesWithin.2, room⟩

theorem isWithin_stepValue {place : ValuePlace} (framesWithin : FramesWithin limit frames)
    (phaseWithin : PhaseWithin limit frames.length (.value place))
    (stepped : stepValue limit frames place byte = .ok next) : IsWithin limit next := by
  have fits := phaseWithin.containers_le
  have refused : ∀ problem, refuse problem ≠ .ok next := fun _ => by simp [refuse]
  rw [stepValue] at stepped
  by_cases blank : isBlankByte byte = true
  · rw [if_pos blank] at stepped
    exact isWithin_of_ok stepped ⟨framesWithin, phaseWithin⟩
  rw [if_neg blank] at stepped
  by_cases closes : (byte = 0x5d && place = .firstElement) = true
  · rw [if_pos closes] at stepped
    obtain rfl := Except.ok.inj stepped
    simp only [Bool.and_eq_true, decide_eq_true_eq] at closes
    obtain ⟨_, rfl⟩ := closes
    exact isWithin_closeEmpty framesWithin phaseWithin
  rw [if_neg closes] at stepped
  by_cases comma : (byte = 0x5d && place = .nextElement) = true
  · rw [if_pos comma] at stepped
    exact absurd stepped (refused _)
  rw [if_neg comma] at stepped
  by_cases null : byte = 0x6e
  · rw [if_pos null] at stepped
    exact isWithin_of_ok stepped ⟨framesWithin, fits, rfl⟩
  rw [if_neg null] at stepped
  by_cases true' : byte = 0x74
  · rw [if_pos true'] at stepped
    exact isWithin_of_ok stepped ⟨framesWithin, fits, rfl⟩
  rw [if_neg true'] at stepped
  by_cases false' : byte = 0x66
  · rw [if_pos false'] at stepped
    exact isWithin_of_ok stepped ⟨framesWithin, fits, rfl⟩
  rw [if_neg false'] at stepped
  by_cases quote : byte = 0x22
  · rw [if_pos quote] at stepped
    exact isWithin_of_ok stepped ⟨framesWithin, fits⟩
  rw [if_neg quote] at stepped
  by_cases minus : byte = 0x2d
  · rw [if_pos minus] at stepped
    exact isWithin_of_ok stepped ⟨framesWithin, fits⟩
  rw [if_neg minus] at stepped
  by_cases array : byte = 0x5b
  · rw [if_pos array] at stepped
    by_cases room : frames.length < limit
    · rw [if_pos room] at stepped
      exact isWithin_of_ok stepped ⟨⟨⟨room, by simp⟩, framesWithin⟩, room, Nat.succ_pos _⟩
    · rw [if_neg room] at stepped
      exact absurd stepped (refused _)
  rw [if_neg array] at stepped
  by_cases object : byte = 0x7b
  · rw [if_pos object] at stepped
    by_cases room : frames.length < limit
    · rw [if_pos room] at stepped
      exact isWithin_of_ok stepped ⟨framesWithin, room, by simp⟩
    · rw [if_neg room] at stepped
      exact absurd stepped (refused _)
  rw [if_neg object] at stepped
  split at stepped
  · exact isWithin_of_ok stepped ⟨framesWithin, fits⟩
  · exact isWithin_of_ok stepped ⟨framesWithin, fits⟩
  · exact absurd stepped (refused _)

theorem isWithin_stepMember {before : List (String × Json)} {first : Bool}
    (framesWithin : FramesWithin limit frames)
    (room : MembersWithin limit (frames.length + 1) before)
    (stepped : stepMember frames before first byte = .ok next) : IsWithin limit next := by
  unfold stepMember at stepped
  split at stepped
  · exact isWithin_of_ok stepped ⟨framesWithin, room⟩
  · split at stepped
    · exact isWithin_of_ok stepped ⟨framesWithin, room⟩
    · split at stepped
      · split at stepped
        · obtain rfl := Except.ok.inj stepped
          have empty : MembersWithin limit (frames.length + 1) [] := ⟨room.1, by simp⟩
          exact ⟨framesWithin, empty.depth_object⟩
        · exact absurd stepped (by simp [refuse])
      · exact absurd stepped (by simp [refuse])

/-- Each byte keeps everything within the limit. -/
theorem isWithin_step {state : JsonState} (within : IsWithin limit state)
    (stepped : state.step limit byte = .ok next) : IsWithin limit next := by
  obtain ⟨frames, phase⟩ := state
  obtain ⟨framesWithin, phaseWithin⟩ := within
  cases phase with
  | value place => exact isWithin_stepValue framesWithin phaseWithin stepped
  | word letters value =>
    obtain ⟨fits, flat⟩ := phaseWithin
    have room : value.depth + frames.length ≤ limit := by
      rw [flat, Nat.zero_add]
      exact fits
    cases letters with
    | nil => exact isWithin_stepAfter framesWithin room stepped
    | cons letter letters =>
      simp only [step] at stepped
      split at stepped
      · obtain rfl := Except.ok.inj stepped
        refine ⟨framesWithin, ?_⟩
        cases letters with
        | nil => exact room
        | cons _ _ => exact ⟨fits, flat⟩
      · exact absurd stepped (by simp [refuse])
  | numeral numeral =>
    simp only [step] at stepped
    split at stepped
    · exact isWithin_of_ok stepped ⟨framesWithin, phaseWithin⟩
    · exact absurd stepped (by simp [refuse])
    · split at stepped
      · next number _ =>
        have flat : (Json.number number).depth = 0 := rfl
        refine isWithin_stepAfter framesWithin ?_ stepped
        rw [flat, Nat.zero_add]
        exact phaseWithin
      · exact absurd stepped (by simp)
  | text text =>
    simp only [step] at stepped
    split at stepped
    · exact isWithin_of_ok stepped ⟨framesWithin, phaseWithin⟩
    · next string _ =>
      have flat : (Json.string string).depth = 0 := rfl
      obtain rfl := Except.ok.inj stepped
      refine ⟨framesWithin, ?_⟩
      show (Json.string string).depth + frames.length ≤ limit
      rw [flat, Nat.zero_add]
      exact phaseWithin
    · exact absurd stepped (by simp)
  | member before first => exact isWithin_stepMember framesWithin phaseWithin stepped
  | name before text =>
    simp only [step] at stepped
    split at stepped
    · exact isWithin_of_ok stepped ⟨framesWithin, phaseWithin⟩
    · exact isWithin_of_ok stepped ⟨framesWithin, phaseWithin⟩
    · exact absurd stepped (by simp)
  | colon before name =>
    simp only [step] at stepped
    split at stepped
    · exact isWithin_of_ok stepped ⟨framesWithin, phaseWithin⟩
    · split at stepped
      · exact isWithin_of_ok stepped ⟨⟨phaseWithin, framesWithin⟩, phaseWithin.1⟩
      · exact absurd stepped (by simp [refuse])
  | after value => exact isWithin_stepAfter framesWithin phaseWithin stepped

/-- The value of a whole text is within the limit. -/
theorem depth_le_of_finish {state : JsonState} {value : Json} (within : IsWithin limit state)
    (finished : state.finish = .ok value) : value.depth ≤ limit := by
  obtain ⟨frames, phase⟩ := state
  obtain ⟨_, phaseWithin⟩ := within
  have ended : ∀ {result : Json}, finishAfter frames result = .ok value → result = value := by
    intro result finished
    unfold finishAfter at finished
    split at finished
    · exact Except.ok.inj finished
    · exact absurd finished (by simp)
    · exact absurd finished (by simp)
  cases phase with
  | value place => cases place <;> simp [finish] at finished
  | word letters result =>
    cases letters with
    | nil =>
      obtain rfl := ended finished
      rw [phaseWithin.2]
      exact Nat.zero_le limit
    | cons _ _ => simp [finish] at finished
  | numeral numeral =>
    simp only [finish] at finished
    split at finished
    · split at finished
      · obtain rfl := ended finished
        exact Nat.zero_le limit
      · simp at finished
    · simp at finished
  | text _ => simp [finish] at finished
  | member _ first => cases first <;> simp [finish] at finished
  | name _ _ => simp [finish] at finished
  | colon _ _ => simp [finish] at finished
  | after result =>
    obtain rfl := ended finished
    exact Nat.le_of_add_right_le phaseWithin

theorem depth_le_of_run {state : JsonState} {consumed : Nat} {bytes : List UInt8} {value : Json}
    (within : IsWithin limit state) (result : run limit state consumed bytes = .ok value) :
    value.depth ≤ limit := by
  induction bytes generalizing state consumed with
  | nil =>
    rw [run] at result
    cases finished : state.finish with
    | error problem =>
      rw [finished] at result
      cases result
    | ok read =>
      rw [finished] at result
      obtain rfl := Except.ok.inj result
      exact depth_le_of_finish within finished
  | cons byte rest ih =>
    rw [run] at result
    split at result
    · simp at result
    · next next stepped => exact ih (isWithin_step within stepped) result

end JsonState

/-- A value that is read is nested no deeper than the limit. -/
theorem Json.depth_le_of_readWithin {limit : Nat} {bytes : List UInt8} {value : Json}
    (result : readWithin limit bytes = .ok value) : value.depth ≤ limit := by
  unfold readWithin at result
  split at result
  · next read ran =>
    obtain rfl := Except.ok.inj result
    have start : JsonState.IsWithin limit ⟨[], .value .top⟩ := ⟨trivial, Nat.zero_le limit⟩
    exact JsonState.depth_le_of_run start ran
  · simp at result

end StoreTopology
