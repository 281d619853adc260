/-
**Walks through trees with the same directories.**

* `enter_eq_ok_iff`: what it takes to take a step, and where it leads;
* `SameDirectories.walk`: in trees with the same directories, walks go the same way;
* `IsReached.walk`: a walk passes directories only.
-/

import StoreTopology.FileTree.Changes
import StoreTopology.Proofs.Action

namespace StoreTopology.FileTree

variable {tree first second : FileTree}

/-! ### Look-ups -/

theorem find_put {location : Location} (notTop : location ≠ []) (node : FileNode)
    (other : Location) :
    (tree.put location node).find other =
      if location = other then some node else tree.find other := by
  by_cases top : other = []
  · subst top
    rw [if_neg notTop]
    rfl
  · rw [find, if_neg top, find, if_neg top]
    exact SortedMap.get?_insert tree.nodes location other node

theorem find_erase {location : Location} (notTop : location ≠ []) (other : Location) :
    (tree.erase location).find other = if location = other then none else tree.find other := by
  by_cases top : other = []
  · subst top
    rw [if_neg notTop]
    rfl
  · rw [find, if_neg top, find, if_neg top]
    exact SortedMap.get?_erase tree.nodes location other

theorem findEntry_eq_ok_iff {parent : Location} {name : String} {found : Option FileNode} :
    tree.findEntry parent name = .ok found ↔
      name.utf8ByteSize ≤ nameLimit ∧ tree.find (parent ++ [name]) = found := by
  unfold findEntry
  split
  · next long =>
    constructor
    · intro failed
      cases failed
    · intro both
      exact absurd both.1 (Nat.not_le.mpr long)
  · next short =>
    constructor
    · intro succeeded
      exact ⟨Nat.not_lt.mp short, Except.ok.inj succeeded⟩
    · intro both
      rw [both.2]

theorem require_eq_ok_iff {location : Location} {access : Access} {result : Unit} :
    tree.require location access = .ok result ↔ tree.allows location access = true := by
  unfold require
  split
  · next granted => simp [granted]
  · next refused => simp [refused]

/-! ### Trees with the same directories -/

/-- Two trees have the same directories, with the same permission bits. -/
def SameDirectories (first second : FileTree) : Prop :=
  ∀ location mode,
    first.find location = some (.directory mode) ↔ second.find location = some (.directory mode)

namespace SameDirectories

theorem refl (tree : FileTree) : SameDirectories tree tree := fun _ _ => Iff.rfl

theorem symm (same : SameDirectories first second) : SameDirectories second first :=
  fun location mode => (same location mode).symm

theorem trans {third : FileTree} (same : SameDirectories first second)
    (next : SameDirectories second third) : SameDirectories first third :=
  fun location mode => (same location mode).trans (next location mode)

/-- A file in place of a file or of nothing leaves the directories as they are. -/
theorem put_file {location : Location} (notTop : location ≠ []) (contents : ByteArray)
    (noDirectory : ∀ mode, tree.find location ≠ some (.directory mode)) :
    SameDirectories tree (tree.put location (.file contents)) := by
  intro other mode
  rw [find_put notTop]
  by_cases here : location = other
  · subst here
    rw [if_pos rfl]
    constructor
    · intro found
      exact absurd found (noDirectory mode)
    · intro found
      cases found
  · rw [if_neg here]

/-- A tree without one of its files has the same directories. -/
theorem erase_file {location : Location} (notTop : location ≠ [])
    (noDirectory : ∀ mode, tree.find location ≠ some (.directory mode)) :
    SameDirectories tree (tree.erase location) := by
  intro other mode
  rw [find_erase notTop]
  by_cases here : location = other
  · subst here
    rw [if_pos rfl]
    constructor
    · intro found
      exact absurd found (noDirectory mode)
    · intro found
      cases found
  · rw [if_neg here]

theorem modeAt (same : SameDirectories first second) (location : Location) :
    first.modeAt location = second.modeAt location := by
  unfold FileTree.modeAt
  split
  · next mode found => rw [(same location mode).mp found]
  · next none =>
    split
    · next mode found => exact absurd ((same location mode).mpr found) (none mode)
    · rfl

theorem allows (same : SameDirectories first second) (location : Location) (access : Access) :
    first.allows location access = second.allows location access := by
  unfold FileTree.allows
  rw [same.modeAt]

end SameDirectories

/-! ### Steps and walks -/

/-- What it takes to take a step, and where it leads. -/
theorem enter_eq_ok_iff {current next : Location} {step : PathStep} :
    tree.enter current step = .ok next ↔
      tree.allows current .search = true ∧
        match step with
        | .stay => next = current
        | .up => next = current.dropLast
        | .down name =>
          name.utf8ByteSize ≤ nameLimit ∧
            (∃ mode, tree.find (current ++ [name]) = some (.directory mode)) ∧
            next = current ++ [name] := by
  unfold enter
  rw [bind_eq_ok]
  simp only [require_eq_ok_iff]
  cases step with
  | stay =>
    constructor
    · rintro ⟨_, allowed, stepped⟩
      exact ⟨allowed, (Except.ok.inj stepped).symm⟩
    · rintro ⟨allowed, rfl⟩
      exact ⟨(), allowed, rfl⟩
  | up =>
    constructor
    · rintro ⟨_, allowed, stepped⟩
      exact ⟨allowed, (Except.ok.inj stepped).symm⟩
    · rintro ⟨allowed, rfl⟩
      exact ⟨(), allowed, rfl⟩
  | down name =>
    constructor
    · rintro ⟨_, allowed, stepped⟩
      obtain ⟨found, looked, went⟩ := bind_eq_ok.mp stepped
      obtain ⟨short, here⟩ := findEntry_eq_ok_iff.mp looked
      refine ⟨allowed, short, ?_⟩
      cases found with
      | none => cases went
      | some node =>
        cases node with
        | file contents => cases went
        | directory mode => exact ⟨⟨mode, here⟩, (Except.ok.inj went).symm⟩
    · rintro ⟨allowed, short, ⟨mode, here⟩, same⟩
      refine ⟨(), allowed, bind_eq_ok.mpr ⟨_, findEntry_eq_ok_iff.mpr ⟨short, here⟩, ?_⟩⟩
      rw [same]
      rfl

theorem SameDirectories.enter (same : SameDirectories first second) {current next : Location}
    {step : PathStep} (entered : first.enter current step = .ok next) :
    second.enter current step = .ok next := by
  obtain ⟨allowed, went⟩ := enter_eq_ok_iff.mp entered
  refine enter_eq_ok_iff.mpr ⟨same.allows current .search ▸ allowed, ?_⟩
  cases step with
  | stay => exact went
  | up => exact went
  | down name =>
    obtain ⟨short, ⟨mode, here⟩, there⟩ := went
    exact ⟨short, ⟨mode, (same _ _).mp here⟩, there⟩

theorem SameDirectories.walk (same : SameDirectories first second) {current target : Location}
    {steps : List PathStep} (walked : first.walk current steps = .ok target) :
    second.walk current steps = .ok target := by
  induction steps generalizing current with
  | nil => exact walked
  | cons step rest ih =>
    obtain ⟨next, entered, went⟩ := bind_eq_ok.mp walked
    exact bind_eq_ok.mpr ⟨next, same.enter entered, ih went⟩

/-- All the names that lead to a location lead through directories. -/
def IsReached (tree : FileTree) (location : Location) : Prop :=
  ∀ count, ∃ mode, tree.find (location.take count) = some (.directory mode)

theorem IsReached.top : IsReached tree [] := fun count =>
  ⟨tree.topMode, by rw [List.take_nil, find, if_pos rfl]⟩

theorem IsReached.dropLast {location : Location} (reached : IsReached tree location) :
    IsReached tree location.dropLast := by
  intro count
  rw [List.dropLast_eq_take, List.take_take]
  exact reached _

theorem IsReached.enter {current next : Location} {step : PathStep}
    (reached : IsReached tree current) (entered : tree.enter current step = .ok next) :
    IsReached tree next := by
  obtain ⟨_, went⟩ := enter_eq_ok_iff.mp entered
  cases step with
  | stay => exact went ▸ reached
  | up => exact went ▸ reached.dropLast
  | down name =>
    obtain ⟨_, here, rfl⟩ := went
    intro count
    by_cases inside : count ≤ current.length
    · rw [List.take_append_of_le_length inside]
      exact reached count
    · rw [List.take_of_length_le (by simp; omega)]
      exact here

theorem IsReached.walk {current target : Location} {steps : List PathStep}
    (reached : IsReached tree current) (walked : tree.walk current steps = .ok target) :
    IsReached tree target := by
  induction steps generalizing current with
  | nil => exact Except.ok.inj walked ▸ reached
  | cons step rest ih =>
    obtain ⟨next, entered, went⟩ := bind_eq_ok.mp walked
    exact ih (reached.enter entered) went

end StoreTopology.FileTree
