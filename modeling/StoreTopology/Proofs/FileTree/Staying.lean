/-
**Paths through directories that stay.**

* `Path.target`: the location to which the steps of a path lead, if they lead anywhere;
* `FileTree.target_of_resolve`: what a path resolves to is there;
* `FileTree.DirectoriesStay`: the directories of one tree are directories of another one, whatever
  their permission bits;
* `FileTree.DirectoriesStay.resolve`: a path to one of them leads there as well, or is refused on the
  way by a directory that cannot be searched any more.
-/

import StoreTopology.Proofs.FileTree.Replacing

namespace StoreTopology

/-! ### Where paths lead -/

/-- The location to which a step leads, if it is allowed. -/
def PathStep.follow (current : Location) : PathStep → Location
  | stay => current
  | up => current.dropLast
  | down name => current ++ [name]

/-- The location to which a path leads, if all its steps are allowed. -/
def Path.target (path : Path) : Location := path.steps.foldl PathStep.follow []

theorem Path.target_of_getLast? {path : Path} {step : PathStep}
    (last : path.steps.getLast? = some step) :
    path.target = step.follow (path.steps.dropLast.foldl PathStep.follow []) := by
  obtain ⟨before, split⟩ := List.getLast?_eq_some_iff.mp last
  rw [target, split, List.foldl_append, List.dropLast_concat]
  rfl

namespace FileTree

variable {tree first second : FileTree} {text : String} {path : Path}

theorem eq_follow_of_enter {current next : Location} {step : PathStep}
    (entered : tree.enter current step = .ok next) : next = step.follow current := by
  obtain ⟨_, went⟩ := enter_eq_ok_iff.mp entered
  cases step with
  | stay => exact went
  | up => exact went
  | down name => exact went.2.2

theorem eq_foldl_of_walk {current reached : Location} {steps : List PathStep}
    (walked : tree.walk current steps = .ok reached) :
    reached = steps.foldl PathStep.follow current := by
  induction steps generalizing current with
  | nil => exact (Except.ok.inj walked).symm
  | cons step rest ih =>
    obtain ⟨next, entered, went⟩ := bind_eq_ok.mp walked
    rw [ih went, eq_follow_of_enter entered]
    rfl

/-- The entry to which a path leads is at the location that its steps lead to. -/
theorem target_of_entry {parent : Location} {name : String} {slash : Bool}
    (located : tree.locate path = .ok (.entry parent name slash)) :
    path.target = parent ++ [name] := by
  obtain ⟨walked, last, _, _⟩ := locate_entry_iff.mp located
  rw [path.target_of_getLast? last, ← eq_foldl_of_walk walked]
  rfl

theorem target_of_directory {location : Location}
    (located : tree.locate path = .ok (.directory location)) : path.target = location := by
  unfold locate at located
  obtain ⟨reached, walked, went⟩ := bind_eq_ok.mp located
  have isReached := eq_foldl_of_walk walked
  split at went
  · next none =>
    cases went
    rw [isReached, Path.target, List.getLast?_eq_none_iff.mp none]
    rfl
  · next step last =>
    obtain ⟨_, _, taken⟩ := bind_eq_ok.mp went
    rw [path.target_of_getLast? last, ← isReached]
    cases step with
    | stay => exact (PathTarget.directory.inj (Except.ok.inj taken))
    | up => exact (PathTarget.directory.inj (Except.ok.inj taken))
    | down name => cases taken

/-- What a path resolves to is at the location that its steps lead to. -/
theorem target_of_resolve {location : Location} {node : FileNode}
    (resolved : tree.resolve path = .ok (location, node)) :
    location = path.target ∧ tree.find location = some node := by
  unfold resolve at resolved
  obtain ⟨target, located, went⟩ := bind_eq_ok.mp resolved
  cases target with
  | directory place =>
    rw [target_of_directory located]
    dsimp only at went
    split at went
    · next found here =>
      cases went
      exact ⟨rfl, here⟩
    · cases went
  | entry parent name slash =>
    rw [target_of_entry located]
    obtain ⟨found, looked, went⟩ := bind_eq_ok.mp went
    obtain ⟨_, here⟩ := findEntry_eq_ok_iff.mp looked
    cases found with
    | none => cases went
    | some other =>
      have same : location = parent ++ [name] ∧ node = other := by
        cases other with
        | directory mode =>
          cases went
          exact ⟨rfl, rfl⟩
        | file contents =>
          cases slash with
          | true => cases went
          | false =>
            cases went
            exact ⟨rfl, rfl⟩
      obtain ⟨rfl, rfl⟩ := same
      exact ⟨rfl, here⟩

/-! ### Trees that keep directories -/

/-- The directories of the first tree are directories of the second one, perhaps with other
permission bits. -/
def DirectoriesStay (first second : FileTree) : Prop :=
  ∀ location mode, first.find location = some (.directory mode) →
    ∃ changed, second.find location = some (.directory changed)

/-- Some directory that can be searched in the first tree cannot be searched in the second one. -/
def Withdraws (first second : FileTree) : Prop :=
  ∃ location, first.allows location .search = true ∧ second.allows location .search = false

namespace DirectoriesStay

theorem of_same (same : SameDirectories first second) : DirectoriesStay first second :=
  fun location mode found => ⟨mode, (same location mode).mp found⟩

theorem trans {third : FileTree} (stay : DirectoriesStay first second)
    (next : DirectoriesStay second third) : DirectoriesStay first third := by
  intro location mode found
  obtain ⟨between, there⟩ := stay location mode found
  exact next location between there

/-- A step leads to the same directory, or is refused by one that cannot be searched any more. -/
theorem enter (stay : DirectoriesStay first second) {current next : Location} {step : PathStep}
    (entered : first.enter current step = .ok next) :
    second.enter current step = .ok next ∨
      second.enter current step = .error .permissionDenied ∧ Withdraws first second := by
  obtain ⟨allowed, went⟩ := enter_eq_ok_iff.mp entered
  cases granted : second.allows current .search with
  | true =>
    refine .inl (enter_eq_ok_iff.mpr ⟨granted, ?_⟩)
    cases step with
    | stay => exact went
    | up => exact went
    | down name =>
      obtain ⟨short, ⟨mode, here⟩, there⟩ := went
      exact ⟨short, stay _ mode here, there⟩
  | false =>
    refine .inr ⟨?_, current, allowed, granted⟩
    unfold FileTree.enter require
    rw [granted]
    rfl

theorem walk (stay : DirectoriesStay first second) {current reached : Location}
    {steps : List PathStep} (walked : first.walk current steps = .ok reached) :
    second.walk current steps = .ok reached ∨
      second.walk current steps = .error .permissionDenied ∧ Withdraws first second := by
  induction steps generalizing current with
  | nil => exact .inl walked
  | cons step rest ih =>
    obtain ⟨next, entered, went⟩ := bind_eq_ok.mp walked
    rcases stay.enter entered with same | ⟨refused, withdraws⟩
    · rcases ih went with sameRest | ⟨refused, withdraws⟩
      · exact .inl (bind_eq_ok.mpr ⟨next, same, sameRest⟩)
      · exact .inr ⟨bind_eq_error.mpr (.inr ⟨next, same, refused⟩), withdraws⟩
    · exact .inr ⟨bind_eq_error.mpr (.inl refused), withdraws⟩

theorem locate (stay : DirectoriesStay first second) {target : PathTarget}
    (located : first.locate path = .ok target) :
    second.locate path = .ok target ∨
      second.locate path = .error .permissionDenied ∧ Withdraws first second := by
  unfold FileTree.locate at located ⊢
  obtain ⟨parent, walked, went⟩ := bind_eq_ok.mp located
  rcases stay.walk walked with same | ⟨refused, withdraws⟩
  · cases last : path.steps.getLast? with
    | none =>
      rw [last] at went
      exact .inl (bind_eq_ok.mpr ⟨parent, same, went⟩)
    | some step =>
      rw [last] at went
      obtain ⟨_, allowed, aimed⟩ := bind_eq_ok.mp went
      rw [require_eq_ok_iff] at allowed
      cases granted : second.allows parent .search with
      | true =>
        have passed : second.require parent .search = .ok () := require_eq_ok_iff.mpr granted
        exact .inl (bind_eq_ok.mpr ⟨parent, same, bind_eq_ok.mpr ⟨(), passed, aimed⟩⟩)
      | false =>
        have refused : second.require parent .search = .error .permissionDenied := by
          unfold require
          rw [granted]
          rfl
        exact .inr ⟨bind_eq_error.mpr (.inr ⟨parent, same, bind_eq_error.mpr (.inl refused)⟩),
          parent, allowed, granted⟩
  · exact .inr ⟨bind_eq_error.mpr (.inl refused), withdraws⟩

/-- A path to a directory leads there as well, or is refused on the way. -/
theorem resolve (stay : DirectoriesStay first second) {location : Location} {mode : Nat}
    (resolved : first.resolve path = .ok (location, .directory mode)) :
    (∃ changed, second.resolve path = .ok (location, .directory changed)) ∨
      second.locate path = .error .permissionDenied ∧ Withdraws first second := by
  obtain ⟨isTarget, found⟩ := target_of_resolve resolved
  obtain ⟨changed, there⟩ := stay location mode found
  unfold FileTree.resolve at resolved ⊢
  obtain ⟨target, located, went⟩ := bind_eq_ok.mp resolved
  refine (stay.locate located).imp_left fun same => ⟨changed, bind_eq_ok.mpr ⟨target, same, ?_⟩⟩
  cases target with
  | directory place =>
    rw [target_of_directory located] at isTarget
    subst isTarget
    dsimp only
    rw [there]
    rfl
  | entry parent name slash =>
    rw [target_of_entry located] at isTarget
    subst isTarget
    obtain ⟨_, looked, _⟩ := bind_eq_ok.mp went
    obtain ⟨short, _⟩ := findEntry_eq_ok_iff.mp looked
    exact bind_eq_ok.mpr ⟨_, findEntry_eq_ok_iff.mpr ⟨short, there⟩, rfl⟩

end DirectoriesStay

end FileTree

end StoreTopology
