/-
**Actions that are run again when all is done.**

* `Action.IsRepeated`: an action changes no file, and succeeds if directories can be reached that were
  asked for before; its result is like the one before;
* `IsRepeated.of_ok`, `IsRepeated.of_error`, `IsRepeated.bind`: so it is with two steps, if it is with
  each;
* `Action.Repeats`: one action is repeated by another one after everything that the first one did and
  all that followed it;
* `Repeats.bind`: so it is with two actions in turn of which only one may change files.
-/

import StoreTopology.Proofs.Action

namespace StoreTopology.Action

variable {ε α β : Type}

/-! ### One action -/

/-- An action that is run again changes no file. It succeeds if the directories that were asked for
can be reached, which they can if their permission bits let them be searched. Its result is like the
first one then. -/
structure IsRepeated (alike : α → α → Prop) (asked : List (String × UInt32)) (value : α)
    (tree : FileTree) (ran : Except ε α × Site) : Prop where
  files : ran.2.files = tree
  succeeds_iff : (∃ again, ran.1 = .ok again) ↔
    ∀ directory ∈ asked, tree.pathExists directory.1 = true
  reached : ∀ directory ∈ asked, Access.search.isGrantedBy directory.2.toNat = true →
    tree.pathExists directory.1 = true
  alike : ∀ again, ran.1 = .ok again → alike value again

namespace IsRepeated

variable {alike : α → α → Prop} {alike' : β → β → Prop} {asked more : List (String × UInt32)}
  {value : α} {result : β} {tree : FileTree} {left : Site}

theorem succeeds {other : α} (kept : left.files = tree)
    (all : ∀ directory ∈ asked, tree.pathExists directory.1 = true) (isAlike : alike value other) :
    IsRepeated alike asked value tree ((.ok other, left) : Except ε α × Site) where
  files := kept
  succeeds_iff := iff_of_true ⟨other, rfl⟩ all
  reached := fun directory isAsked _ => all directory isAsked
  alike := fun _ isOk => Except.ok.inj isOk ▸ isAlike

theorem fails {error : ε} (kept : left.files = tree)
    (unreached : ¬ ∀ directory ∈ asked, tree.pathExists directory.1 = true)
    (reached : ∀ directory ∈ asked, Access.search.isGrantedBy directory.2.toNat = true →
      tree.pathExists directory.1 = true) :
    IsRepeated alike asked value tree (.error error, left) where
  files := kept
  succeeds_iff := iff_of_false (fun ⟨_, isOk⟩ => nomatch isOk) unreached
  reached := reached
  alike := fun _ isOk => nomatch isOk

theorem unreached {error : ε}
    (repeated : IsRepeated alike asked value tree (.error error, left)) :
    ¬ ∀ directory ∈ asked, tree.pathExists directory.1 = true := by
  intro all
  obtain ⟨_, isOk⟩ := repeated.succeeds_iff.mpr all
  cases isOk

/-- If the first step fails, so does the whole. -/
theorem of_error {error : ε} {last : Site}
    (first : IsRepeated alike asked value tree (.error error, left)) (kept : last.files = tree)
    (reached : ∀ directory ∈ more, Access.search.isGrantedBy directory.2.toNat = true →
      tree.pathExists directory.1 = true) :
    IsRepeated alike' (asked ++ more) result tree (.error error, last) :=
  .fails kept (fun all => first.unreached (List.forall_mem_append.mp all).1)
    (List.forall_mem_append.mpr ⟨first.reached, reached⟩)

/-- If the first step succeeds, what follows decides. -/
theorem of_ok {other : α} {whole : Except ε β × Site}
    (first : IsRepeated alike asked value tree ((.ok other, left) : Except ε α × Site))
    (rest : IsRepeated alike' more result tree whole) :
    IsRepeated alike' (asked ++ more) result tree whole where
  files := rest.files
  succeeds_iff := by
    rw [rest.succeeds_iff, List.forall_mem_append]
    exact (and_iff_right (first.succeeds_iff.mp ⟨other, rfl⟩)).symm
  reached := List.forall_mem_append.mpr ⟨first.reached, rest.reached⟩
  alike := rest.alike

/-- Two steps, the second of which is repeated whatever the first one gives. -/
theorem bind {action : Action ε α} {next : α → Action ε β} {later : Site}
    (first : IsRepeated alike asked value later.files (action later)) (self : alike value value)
    (rest : ∀ other left, alike value other → left.files = later.files →
      IsRepeated alike' more result later.files (next other left)) :
    IsRepeated alike' (asked ++ more) result later.files ((action >>= next) later) := by
  cases ran : action later with
  | mk outcome left =>
    rw [ran] at first
    cases outcome with
    | error error =>
      rw [bind_of_error ran]
      exact first.of_error first.files (rest value later self rfl).reached
    | ok other =>
      rw [bind_of_ok ran]
      exact first.of_ok (rest other left (first.alike other rfl) first.files)

/-- A result may be made a part of another one. -/
theorem map {g : α → β} {ran : Except ε α × Site} (f : α → β)
    (repeated : IsRepeated alike asked value tree ran)
    (both : ∀ again, alike value again → alike' (f value) (g again)) :
    IsRepeated alike' asked (f value) tree (ran.1.map g, ran.2) where
  files := repeated.files
  succeeds_iff := by
    rw [← repeated.succeeds_iff]
    constructor
    · rintro ⟨_, isMapped⟩
      obtain ⟨again, isOk, _⟩ := map_eq_ok.mp isMapped
      exact ⟨again, isOk⟩
    · rintro ⟨again, isOk⟩
      exact ⟨g again, map_eq_ok.mpr ⟨again, isOk, rfl⟩⟩
  reached := repeated.reached
  alike := fun found isMapped => by
    obtain ⟨again, isOk, same⟩ := map_eq_ok.mp isMapped
    exact same ▸ both again (repeated.alike again isOk)

end IsRepeated

/-! ### Two runs -/

/-- The second action repeats the first one with the files that were left when all was done. The
first one changes files only if it is counted, and nothing else may change them after it. -/
structure Repeats (count : Nat) (alike : α → α → Prop) (asks : α → List (String × UInt32))
    (first second : Action ε α) : Prop where
  keeps : count = 0 → ∀ {site value after}, first site = (.ok value, after) →
    after.files = site.files
  again : ∀ {site value after}, first site = (.ok value, after) →
    ∀ later : Site, (count ≠ 0 → later.files = after.files) →
      IsRepeated alike (asks value) value later.files (second later)

namespace Repeats

variable {alike : α → α → Prop} {asks : α → List (String × UInt32)} {first second : Action ε α}

/-- An action that never touches files, and succeeds again after a success. -/
theorem of_idle (keeps : ∀ {site value after}, first site = (.ok value, after) →
      after.files = site.files)
    (again : ∀ {site value after}, first site = (.ok value, after) → ∀ later,
      ∃ other left, second later = (.ok other, left) ∧ left.files = later.files ∧
        alike value other) :
    Repeats 0 alike (fun _ => []) first second where
  keeps := fun _ => keeps
  again := fun ran later _ => by
    obtain ⟨other, left, ranAgain, same, isAlike⟩ := again ran later
    rw [ranAgain]
    exact .succeeds same (List.forall_mem_nil _) isAlike

/-- An action with the same outcome on all sites. -/
theorem of_same (keeps : ∀ site, (first site).2.files = site.files)
    (keepsAgain : ∀ site, (second site).2.files = site.files)
    (same : ∀ site later, (second later).1 = (first site).1) :
    Repeats 0 (· = ·) (fun _ => []) first second :=
  of_idle (fun {site value after} ran => by rw [← keeps site, ran])
    fun {site value after} ran later => by
      have outcome := same site later
      rw [ran] at outcome
      exact ⟨value, (second later).2, Prod.ext outcome rfl, keepsAgain later, rfl⟩

/-- Of two actions in turn only one may change files. -/
theorem bind [Std.Refl alike] {firstCount secondCount : Nat} {alike' : β → β → Prop}
    {asks' whole : β → List (String × UInt32)} {next otherNext : α → Action ε β}
    (start : Repeats firstCount alike asks first second)
    (few : firstCount + secondCount ≤ 1)
    (rest : ∀ value other, alike value other →
      Repeats secondCount alike' asks' (next value) (otherNext other))
    (both : ∀ {value site result after}, next value site = (.ok result, after) →
      whole result = asks value ++ asks' result) :
    Repeats (firstCount + secondCount) alike' whole (first >>= next) (second >>= otherNext) where
  keeps := fun none site result after succeeded => by
    obtain ⟨value, between, ran, continued⟩ := bind_eq_ok_iff.mp succeeded
    obtain ⟨isFirst, isSecond⟩ := Nat.add_eq_zero_iff.mp none
    have restKeeps := (rest value value (Std.Refl.refl value)).keeps isSecond continued
    exact restKeeps.trans (start.keeps isFirst ran)
  again := fun {site result after} succeeded later same => by
    obtain ⟨value, between, ran, continued⟩ := bind_eq_ok_iff.mp succeeded
    -- The first action is not followed by another one that changes files, if it changes any.
    have started := start.again ran later fun counted => by
      rw [← (rest value value (Std.Refl.refl value)).keeps (by omega) continued]
      exact same (by omega)
    rw [both continued]
    refine started.bind (Std.Refl.refl value) fun other left isAlike kept => ?_
    have ended := (rest value other isAlike).again continued left
      fun counted => kept.trans (same (by omega))
    rwa [kept] at ended

/-- What comes after an action that never touches files. -/
theorem after {count : Nat} {alike : β → β → Prop} {asks : β → List (String × UInt32)}
    {next otherNext : α → Action ε β} (start : Repeats 0 (· = ·) (fun _ => []) first second)
    (few : count ≤ 1) (rest : ∀ value, Repeats count alike asks (next value) (otherNext value)) :
    Repeats count alike asks (first >>= next) (second >>= otherNext) := by
  have continues : ∀ value other, value = other →
      Repeats count alike asks (next value) (otherNext other) := fun value other same =>
    same ▸ rest value
  have : Std.Refl fun value other : α => value = other := ⟨fun _ => rfl⟩
  have together : Repeats (0 + count) alike asks (first >>= next) (second >>= otherNext) :=
    start.bind ((Nat.zero_add count).symm ▸ few) continues fun _ => rfl
  rwa [Nat.zero_add] at together

/-- What comes before an action that never touches files, and asks for no more directories. -/
theorem before [Std.Refl alike] {count : Nat} {alike' : β → β → Prop}
    {asks' : β → List (String × UInt32)} {next otherNext : α → Action ε β}
    (start : Repeats count alike asks first second) (few : count ≤ 1)
    (rest : ∀ value other, alike value other →
      Repeats 0 alike' (fun _ => []) (next value) (otherNext other))
    (same : ∀ {value site result after}, next value site = (.ok result, after) →
      asks' result = asks value) :
    Repeats count alike' asks' (first >>= next) (second >>= otherNext) :=
  start.bind few rest fun succeeded => by rw [same succeeded, List.append_nil]

end Repeats

end StoreTopology.Action
