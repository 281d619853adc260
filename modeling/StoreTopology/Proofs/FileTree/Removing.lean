/-
**What removals leave of a tree.**

* `Removes`: one tree is left of another one when some of what is owned was removed;
* `Removes.walk`, `Removes.resolve`: a path leads to the same as before, or nowhere;
* `removeFile_eq_ok`: a file is removed, and nothing else;
* `removes_clear`, `find_of_clear`: what is below a directory is removed, and nothing else;
* `removeAll_eq_ok`, `removeAll_eq_error`: a directory is removed with all below it, or some of it.
-/

import StoreTopology.FileTree.Subtree
import StoreTopology.Proofs.FileTree.Missing
import StoreTopology.Proofs.FileTree.Staying

namespace StoreTopology

/-- A path leads through a location that passes a test. -/
def Path.Passes (path : Path) (test : Location → Prop) : Prop :=
  ∃ count, test ((path.steps.take count).foldl PathStep.follow [])

namespace FileTree

variable {tree before between after : FileTree} {owned wider : Location → Prop} {text : String}
  {path : Path} {location place current : Location} {step : PathStep} {steps : List PathStep}
  {problem : FileProblem}

/-! ### Trees that are left -/

theorem find_erase_self (notTop : location ≠ []) : (tree.erase location).find location = none := by
  rw [find_erase notTop, if_pos rfl]

/-- One tree is left of another one when some of what is owned was removed. All else is as it
was. -/
structure Removes (owned : Location → Prop) (before after : FileTree) : Prop where
  topMode : after.topMode = before.topMode
  umask : after.umask = before.umask
  find : ∀ location, after.find location = before.find location ∨
    owned location ∧ after.find location = none

namespace Removes

theorem refl (tree : FileTree) : Removes owned tree tree := ⟨rfl, rfl, fun _ => .inl rfl⟩

theorem trans (first : Removes owned before between) (second : Removes owned between after) :
    Removes owned before after where
  topMode := second.topMode.trans first.topMode
  umask := second.umask.trans first.umask
  find := fun location => by
    rcases second.find location with same | gone
    · rw [same]
      exact first.find location
    · exact .inr gone

theorem mono (removes : Removes owned before after)
    (within : ∀ location, owned location → wider location) : Removes wider before after :=
  ⟨removes.topMode, removes.umask, fun location =>
    (removes.find location).imp_right (.imp_left (within location))⟩

theorem erase (isOwned : owned location) (notTop : location ≠ []) :
    Removes owned tree (tree.erase location) where
  topMode := rfl
  umask := rfl
  find := fun other => by
    rw [find_erase notTop]
    split
    · next here => exact .inr ⟨here ▸ isOwned, rfl⟩
    · exact .inl rfl

/-- What is gone stays so. -/
theorem find_of_none (removes : Removes owned before after) (gone : before.find location = none) :
    after.find location = none := by
  rcases removes.find location with same | ⟨_, none⟩
  · rw [same, gone]
  · exact none

/-! ### Paths in what is left -/

theorem find_of_isReached (removes : Removes owned before after)
    (reached : IsReached after location) : after.find location = before.find location := by
  rcases removes.find location with same | ⟨_, none⟩
  · exact same
  · obtain ⟨mode, found⟩ := reached location.length
    rw [List.take_length, none] at found
    cases found

theorem require (removes : Removes owned before after) (reached : IsReached after location)
    (access : Access) : after.require location access = before.require location access := by
  unfold FileTree.require allows modeAt
  rw [removes.find_of_isReached reached]

/-- An entry is what it was, or it is missing. -/
theorem findEntry (removes : Removes owned before after) (parent : Location) (name : String) :
    after.findEntry parent name = before.findEntry parent name ∨
      after.findEntry parent name = .ok none ∧ owned (parent ++ [name]) := by
  unfold FileTree.findEntry
  split
  · exact .inl rfl
  · rcases removes.find (parent ++ [name]) with same | ⟨isOwned, none⟩
    · rw [same]
      exact .inl rfl
    · rw [none]
      exact .inr ⟨rfl, isOwned⟩

/-- A step leads to the same as before, or to what is gone. -/
theorem enter (removes : Removes owned before after) (reached : IsReached after current)
    (step : PathStep) :
    after.enter current step = before.enter current step ∨
      after.enter current step = .error .notFound ∧ owned (step.follow current) := by
  unfold FileTree.enter
  rw [removes.require reached .search]
  cases granted : before.require current .search with
  | error problem => exact .inl rfl
  | ok _ =>
    cases step with
    | stay => exact .inl rfl
    | up => exact .inl rfl
    | down name =>
      rcases removes.findEntry current name with same | ⟨missing, isOwned⟩
      · dsimp only
        rw [same]
        exact .inl rfl
      · dsimp only
        rw [missing]
        exact .inr ⟨rfl, isOwned⟩

/-- A walk leads to the same as before, or through what is gone. -/
theorem walk (removes : Removes owned before after) (reached : IsReached after current)
    (steps : List PathStep) :
    after.walk current steps = before.walk current steps ∨
      after.walk current steps = .error .notFound ∧
        ∃ count, owned ((steps.take count).foldl PathStep.follow current) := by
  induction steps generalizing current with
  | nil => exact .inl rfl
  | cons step rest ih =>
    rw [FileTree.walk, FileTree.walk]
    rcases removes.enter reached step with same | ⟨missing, isOwned⟩
    · rw [same]
      cases entered : before.enter current step with
      | error problem => exact .inl rfl
      | ok next =>
        obtain rfl := eq_follow_of_enter entered
        rcases ih (reached.enter (same.trans entered)) with goesOn | ⟨missing, count, isOwned⟩
        · exact .inl goesOn
        · exact .inr ⟨missing, count + 1, isOwned⟩
    · rw [missing]
      exact .inr ⟨rfl, 1, isOwned⟩

/-- A path leads to the same as before, or through what is gone. -/
theorem locate (removes : Removes owned before after) (path : Path) :
    after.locate path = before.locate path ∨
      after.locate path = .error .notFound ∧ path.Passes owned := by
  unfold FileTree.locate
  rcases removes.walk .top path.steps.dropLast with same | ⟨missing, count, isOwned⟩
  · rw [same]
    cases path.steps.getLast? with
    | none => exact .inl rfl
    | some step =>
      cases walked : before.walk [] path.steps.dropLast with
      | error problem => exact .inl rfl
      | ok parent =>
        have reached : IsReached after parent := IsReached.top.walk (same.trans walked)
        refine .inl ?_
        show (after.require parent .search >>= _) = _
        rw [removes.require reached .search]
        rfl
  · rw [missing]
    refine .inr ⟨rfl, min count (path.steps.length - 1), ?_⟩
    rw [List.dropLast_eq_take, List.take_take] at isOwned
    exact isOwned

/-- So it is with what the path resolves to. -/
theorem resolve (removes : Removes owned before after) (path : Path) :
    after.resolve path = before.resolve path ∨ after.resolve path = .error .notFound := by
  unfold FileTree.resolve
  rcases removes.locate path with same | ⟨missing, _⟩
  · rw [same]
    cases located : before.locate path with
    | error problem => exact .inl rfl
    | ok target =>
      cases target with
      | directory place =>
        have reached : IsReached after place := locate_directory (same.trans located)
        refine .inl ?_
        dsimp only [bind, Except.bind]
        rw [removes.find_of_isReached reached]
      | entry parent name slash =>
        rcases removes.findEntry parent name with sameEntry | ⟨none, _⟩
        · refine .inl ?_
          show (after.findEntry parent name >>= _) = _
          rw [sameEntry]
          rfl
        · refine .inr ?_
          show (after.findEntry parent name >>= _) = _
          rw [none]
          rfl
  · rw [missing]
    exact .inr rfl

end Removes

/-! ### What paths lead through -/

/-- A walk leads through directories only. -/
theorem isReached_of_walk (reached : IsReached tree current) {target : Location}
    (walked : tree.walk current steps = .ok target) (count : Nat) :
    IsReached tree ((steps.take count).foldl PathStep.follow current) := by
  induction steps generalizing current count with
  | nil => rwa [List.take_nil]
  | cons step rest ih =>
    cases count with
    | zero => exact reached
    | succ count =>
      obtain ⟨next, entered, went⟩ := bind_eq_ok.mp walked
      obtain rfl := eq_follow_of_enter entered
      exact ih (reached.enter entered) went count

/-- A path that leads somewhere passes nothing that is gone, its target apart. -/
theorem not_passes_of_locate {test : Location → Prop} {target : PathTarget}
    (located : tree.locate path = .ok target) (notTarget : ¬ test path.target)
    (areGone : ∀ location, test location → tree.find location = none) : ¬ path.Passes test := by
  rintro ⟨count, isHit⟩
  by_cases onTheWay : count < path.steps.length
  · unfold locate at located
    obtain ⟨parent, walked, _⟩ := bind_eq_ok.mp located
    have reached := isReached_of_walk .top walked count
    rw [List.dropLast_eq_take, List.take_take, Nat.min_eq_left (by omega)] at reached
    obtain ⟨mode, found⟩ := reached (List.length _)
    rw [List.take_length, areGone _ isHit] at found
    cases found
  · rw [List.take_of_length_le (by omega)] at isHit
    exact notTarget isHit

/-! ### Paths that lead nowhere -/

namespace Removes

/-- A path that leads nowhere leads nowhere after a removal. -/
theorem leadsNowhere (removes : Removes owned before after) (nowhere : before.LeadsNowhere path) :
    after.LeadsNowhere path := by
  rw [← resolve_eq_notFound_iff] at nowhere ⊢
  rcases removes.resolve path with same | missing
  · rw [same, nowhere]
  · exact missing

/-- So does a path whose entry was removed. -/
theorem leadsNowhere_of_entry (removes : Removes owned before after) {parent : Location}
    {name : String} {slash : Bool} (located : before.locate path = .ok (.entry parent name slash))
    (short : name.utf8ByteSize ≤ nameLimit) (gone : after.find (parent ++ [name]) = none) :
    after.LeadsNowhere path := by
  rcases removes.locate path with same | ⟨missing, _⟩
  · exact .inr ⟨parent, name, slash, same.trans located, findEntry_eq_ok_iff.mpr ⟨short, gone⟩⟩
  · exact .inl missing

theorem status_of_notFound (removes : Removes owned before after)
    (missing : before.status text = .error .notFound) : after.status text = .error .notFound := by
  rw [status_eq_notFound_iff] at missing ⊢
  exact missing.imp_right fun ⟨path, read, nowhere⟩ => ⟨path, read, removes.leadsNowhere nowhere⟩

end Removes

/-- What leads to an entry after a removal led to it before. -/
theorem LeadsTo.of_removes {parent : Location} {name : String}
    (removes : Removes owned before after) (leads : after.LeadsTo text parent name) :
    before.LeadsTo text parent name := by
  obtain ⟨path, read, located, short⟩ := leads
  rcases removes.locate path with same | ⟨missing, _⟩
  · exact ⟨path, read, same.symm.trans located, short⟩
  · cases missing.symm.trans located

/-! ### Files -/

/-- A file that is removed is erased from the entry that its path leads to. -/
theorem removeFile_eq_ok (removed : tree.removeFile text = .ok after) :
    ∃ parent name contents, tree.LeadsTo text parent name ∧
      tree.find (parent ++ [name]) = some (.file contents) ∧
      after = tree.erase (parent ++ [name]) := by
  unfold removeFile at removed
  obtain ⟨path, read, removed⟩ := bind_eq_ok.mp removed
  obtain ⟨target, located, removed⟩ := bind_eq_ok.mp removed
  cases target with
  | directory place => cases removed
  | entry parent name slash =>
    obtain ⟨found, looked, removed⟩ := bind_eq_ok.mp removed
    obtain ⟨short, here⟩ := findEntry_eq_ok_iff.mp looked
    cases found with
    | none => cases removed
    | some node =>
      cases node with
      | directory mode =>
        cases slash with
        | true => cases removed
        | false =>
          obtain ⟨_, _, removed⟩ := bind_eq_ok.mp removed
          cases removed
      | file contents =>
        cases slash with
        | true => cases removed
        | false =>
          obtain ⟨_, _, same⟩ := bind_eq_ok.mp removed
          cases same
          exact ⟨parent, name, contents, ⟨path, read, located, short⟩, here, rfl⟩

/-! ### Directories -/

/-- A path leads to a directory. -/
def LeadsToDirectory (tree : FileTree) (text : String) (place : Location) : Prop :=
  ∃ path mode, Path.read text = .ok path ∧ tree.resolve path = .ok (place, .directory mode)

namespace LeadsToDirectory

theorem unique {other : Location} (leads : tree.LeadsToDirectory text place)
    (again : tree.LeadsToDirectory text other) : place = other := by
  obtain ⟨path, mode, read, resolved⟩ := leads
  obtain ⟨_, _, readAgain, resolvedAgain⟩ := again
  cases read.symm.trans readAgain
  cases resolved.symm.trans resolvedAgain
  rfl

theorem status_ne_notFound (leads : tree.LeadsToDirectory text place) :
    tree.status text ≠ .error .notFound := by
  intro missing
  obtain ⟨path, mode, read, resolved⟩ := leads
  rcases status_eq_notFound_iff.mp missing with unread | ⟨_, readAgain, nowhere⟩
  · cases read.symm.trans unread
  · cases read.symm.trans readAgain
    cases resolved.symm.trans (resolve_eq_notFound_iff.mpr nowhere)

/-- What leads to a directory after a removal led to it before. -/
theorem of_removes (removes : Removes owned before after)
    (leads : after.LeadsToDirectory text place) : before.LeadsToDirectory text place := by
  obtain ⟨path, mode, read, resolved⟩ := leads
  rcases removes.resolve path with same | missing
  · exact ⟨path, mode, read, same.symm.trans resolved⟩
  · cases missing.symm.trans resolved

theorem of_sameDirectories (same : SameDirectories before after)
    (leads : before.LeadsToDirectory text place) : after.LeadsToDirectory text place := by
  obtain ⟨path, mode, read, resolved⟩ := leads
  rcases (DirectoriesStay.of_same same).resolve resolved with
    ⟨changed, resolved⟩ | ⟨_, location, granted, refused⟩
  · exact ⟨path, changed, read, resolved⟩
  · rw [same.allows, refused] at granted
    cases granted

end LeadsToDirectory

/-- A location is below another one. -/
def IsBelow (place location : Location) : Prop := place <+: location ∧ location ≠ place

theorem IsBelow.notTop (below : IsBelow place location) : location ≠ [] := by
  rintro rfl
  exact below.2 (List.prefix_nil.mp below.1).symm

theorem mem_below_iff {node : FileNode} :
    (location, node) ∈ tree.below place ↔
      tree.find location = some node ∧ IsBelow place location := by
  have found (isBelow : IsBelow place location) :
      (location, node) ∈ tree.nodes.entries ↔ tree.find location = some node := by
    rw [SortedMap.mem_entries, find, if_neg isBelow.notTop]
  unfold below IsBelow at *
  simp only [List.mem_filter, Bool.and_eq_true, List.isPrefixOf_iff_prefix, bne_iff_ne]
  exact and_congr_left found

/-- Entries that are erased one after another. -/
theorem removes_foldl_erase {entries : List (Location × FileNode)}
    (areOwned : ∀ entry ∈ entries, owned entry.1 ∧ entry.1 ≠ []) :
    Removes owned tree (entries.foldl (fun rest entry => rest.erase entry.1) tree) := by
  induction entries generalizing tree with
  | nil => exact .refl tree
  | cons entry rest ih =>
    obtain ⟨⟨isOwned, notTop⟩, restOwned⟩ := List.forall_mem_cons.mp areOwned
    exact (Removes.erase isOwned notTop).trans (ih restOwned)

theorem find_foldl_erase {entries : List (Location × FileNode)}
    (notTop : ∀ entry ∈ entries, entry.1 ≠ []) {entry : Location × FileNode}
    (isErased : entry ∈ entries) :
    (entries.foldl (fun rest entry => rest.erase entry.1) tree).find entry.1 = none := by
  induction entries generalizing tree with
  | nil => cases isErased
  | cons head rest ih =>
    obtain ⟨headNotTop, restNotTop⟩ := List.forall_mem_cons.mp notTop
    rcases List.mem_cons.mp isErased with rfl | inRest
    · have removes : Removes (fun _ => True) (tree.erase entry.1) _ :=
        removes_foldl_erase fun other isErased => ⟨trivial, restNotTop other isErased⟩
      exact removes.find_of_none (by rw [find_erase headNotTop, if_pos rfl])
    · exact ih restNotTop inRest

/-- Clearing a directory removes what is below it, and nothing else. -/
theorem removes_clear (tree : FileTree) (place : Location) :
    Removes (IsBelow place) tree (tree.clear place).2 := by
  have areBelow : ∀ entry ∈ (tree.below place).reverse.takeWhile (tree.isRemovable place),
      IsBelow place entry.1 ∧ entry.1 ≠ [] := fun entry isTaken =>
    have isBelow := (mem_below_iff.mp (List.mem_reverse.mp
      ((List.takeWhile_sublist _).subset isTaken))).2
    ⟨isBelow, isBelow.notTop⟩
  unfold clear
  dsimp only
  split <;> exact removes_foldl_erase areBelow

/-- All that was below a directory is gone when it has been cleared. -/
theorem find_of_clear (cleared : tree.clear place = (.ok (), after))
    (isBelow : IsBelow place location) : after.find location = none := by
  unfold clear at cleared
  dsimp only at cleared
  split at cleared
  · next all =>
    cases cleared
    have whole : (tree.below place).reverse.takeWhile (tree.isRemovable place) =
        (tree.below place).reverse :=
      (List.takeWhile_prefix _).eq_of_length (of_decide_eq_true (Bool.and_eq_true_iff.mp all).2)
    rw [whole]
    have notTop : ∀ entry ∈ (tree.below place).reverse, entry.1 ≠ [] := fun entry isThere =>
      (mem_below_iff.mp (List.mem_reverse.mp isThere)).2.notTop
    cases found : tree.find location with
    | none =>
      have removes : Removes (fun _ => True) tree _ :=
        removes_foldl_erase fun entry isThere => ⟨trivial, notTop entry isThere⟩
      exact removes.find_of_none found
    | some node =>
      exact find_foldl_erase notTop (List.mem_reverse.mpr (mem_below_iff.mpr ⟨found, isBelow⟩))
  · cases cleared

theorem problem_of_clear (failed : tree.clear place = (.error problem, after)) :
    problem = .permissionDenied := by
  unfold clear at failed
  dsimp only at failed
  split at failed
  · cases failed
  · cases failed
    rfl

theorem removeDirectory_eq_ok (removed : tree.removeDirectory path = .ok after) :
    ∃ parent name slash, tree.locate path = .ok (.entry parent name slash) ∧
      name.utf8ByteSize ≤ nameLimit ∧ after = tree.erase (parent ++ [name]) := by
  unfold removeDirectory at removed
  obtain ⟨target, located, removed⟩ := bind_eq_ok.mp removed
  cases target with
  | directory place =>
    dsimp only at removed
    split at removed <;> cases removed
  | entry parent name slash =>
    obtain ⟨found, looked, removed⟩ := bind_eq_ok.mp removed
    refine ⟨parent, name, slash, located, (findEntry_eq_ok_iff.mp looked).1, ?_⟩
    cases found with
    | none => cases removed
    | some node =>
      obtain ⟨_, _, removed⟩ := bind_eq_ok.mp removed
      cases node with
      | file contents => cases removed
      | directory mode =>
        dsimp only at removed
        split at removed
        · exact (Except.ok.inj removed).symm
        · cases removed

/-- A directory that is removed has nothing below it any more, and its path leads nowhere. It is
gone itself, unless its path leads through what was below it. -/
theorem removeAll_eq_ok (removed : tree.removeAll text = (.ok (), after)) :
    ∃ path place, Path.read text = .ok path ∧ tree.LeadsToDirectory text place ∧
      Removes (place <+: ·) tree after ∧ after.LeadsNowhere path ∧
      (∀ location, IsBelow place location → after.find location = none) ∧
      (after.find place = none ↔ ¬ path.Passes (IsBelow place)) := by
  unfold removeAll at removed
  cases read : Path.read text with
  | error problem => rw [read] at removed; cases removed
  | ok path =>
  rw [read] at removed
  dsimp only at removed
  cases resolved : tree.resolve path with
  | error problem => rw [resolved] at removed; cases removed
  | ok found =>
  obtain ⟨place, node⟩ := found
  rw [resolved] at removed
  cases node with
  | file contents => cases removed
  | directory mode =>
  dsimp only at removed
  split at removed
  · cases removed
  · next cleared clears =>
    have removes : Removes (IsBelow place) tree cleared := by
      have removes := removes_clear tree place
      rwa [clears] at removes
    have areGone (location : Location) : IsBelow place location → cleared.find location = none :=
      find_of_clear clears
    obtain ⟨isTarget, isThere⟩ := target_of_resolve resolved
    have notTarget : ¬ IsBelow place path.target := fun isBelow => isBelow.2 isTarget.symm
    have stays : cleared.find place ≠ none := by
      rcases removes.find place with same | ⟨isBelow, _⟩
      · rw [same, isThere]
        nofun
      · exact absurd rfl isBelow.2
    refine ⟨path, place, rfl, ⟨path, mode, read, resolved⟩, ?_⟩
    split at removed
    · next went =>
      cases removed
      obtain ⟨parent, name, slash, located, short, rfl⟩ := removeDirectory_eq_ok went
      have here : parent ++ [name] = place := (target_of_entry located).symm.trans isTarget.symm
      have removesIt : Removes (place <+: ·) cleared (cleared.erase (parent ++ [name])) :=
        .erase (here ▸ List.prefix_refl _) LeadsTo.notTop
      have gone : (cleared.erase (parent ++ [name])).find (parent ++ [name]) = none :=
        find_erase_self LeadsTo.notTop
      exact ⟨(removes.mono fun _ => And.left).trans removesIt,
        removesIt.leadsNowhere_of_entry located short gone,
        fun location isBelow => removesIt.find_of_none (areGone location isBelow),
        iff_of_true (here ▸ gone) (not_passes_of_locate located notTarget areGone)⟩
    · next failed =>
      cases removed
      -- The path led to the directory before, so it leads through what was cleared since.
      have nowhere := removeDirectory_eq_notFound_iff.mp failed
      refine ⟨removes.mono fun _ => And.left, nowhere, areGone, iff_of_false stays ?_⟩
      rcases nowhere with missing | ⟨parent, name, slash, located, none⟩
      · rcases removes.locate path with same | ⟨_, passes⟩
        · rw [same] at missing
          rw [resolve_eq_notFound_iff.mpr (.inl missing)] at resolved
          cases resolved
        · exact not_not_intro passes
      · have here : parent ++ [name] = place := (target_of_entry located).symm.trans isTarget.symm
        exact absurd (here ▸ (findEntry_eq_ok_iff.mp none).2) stays
    · cases removed

/-- A removal of a directory that fails found nothing to remove, or removed only what was below the
directory. -/
theorem removeAll_eq_error (failed : tree.removeAll text = (.error problem, after)) :
    after = tree ∧ (problem = .notFound → tree.status text = .error .notFound) ∨
      problem ≠ .notFound ∧ ∃ place, tree.LeadsToDirectory text place ∧
        Removes (IsBelow place) tree after := by
  unfold removeAll at failed
  cases read : Path.read text with
  | error refusal =>
    rw [read] at failed
    cases failed
    exact .inl ⟨rfl, fun isMissing => status_eq_notFound_iff.mpr (.inl (isMissing ▸ read))⟩
  | ok path =>
  rw [read] at failed
  dsimp only at failed
  cases resolved : tree.resolve path with
  | error refusal =>
    rw [resolved] at failed
    cases failed
    refine .inl ⟨rfl, fun isMissing => status_eq_notFound_iff.mpr (.inr ⟨path, read, ?_⟩)⟩
    exact resolve_eq_notFound_iff.mp (isMissing ▸ resolved)
  | ok found =>
  obtain ⟨place, node⟩ := found
  rw [resolved] at failed
  cases node with
  | file contents =>
    cases failed
    exact .inl ⟨rfl, nofun⟩
  | directory mode =>
  dsimp only at failed
  have removes := removes_clear tree place
  split at failed
  · next cleared clears =>
    cases failed
    rw [clears] at removes
    have denied := problem_of_clear clears
    exact .inr ⟨by rw [denied]; nofun, place, ⟨path, mode, read, resolved⟩, removes⟩
  · next cleared clears =>
    rw [clears] at removes
    split at failed
    · cases failed
    · cases failed
    · next other _ =>
      cases failed
      exact .inr ⟨other, place, ⟨path, mode, read, resolved⟩, removes⟩

/-- Nothing is removed where a path leads nowhere. -/
theorem removeAll_of_status (missing : tree.status text = .error .notFound) :
    tree.removeAll text = (.error .notFound, tree) := by
  unfold removeAll
  rcases status_eq_notFound_iff.mp missing with unread | ⟨path, read, nowhere⟩
  · rw [unread]
  · rw [read]
    dsimp only
    rw [resolve_eq_notFound_iff.mpr nowhere]

end FileTree

end StoreTopology
