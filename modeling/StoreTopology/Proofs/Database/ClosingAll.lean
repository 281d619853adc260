/-
**Closing all databases of a registry, whatever fails.**

* `Attempt.Reports`: the result of several attempts, which is that of the first failure by name;
* `RegistryId.ClosesAll`: what closing all databases of a registry comes to;
* `Scene.Run.closesAll`: it comes to this after every run that begins with files only.
-/

import StoreTopology.Proofs.Database.Using

namespace StoreTopology

open StoreTopology.Action

theorem error?_eq_none_iff {ε : Type} {result : Except ε Unit} :
    error? result = none ↔ result = .ok () := by
  cases result with
  | error problem => simp [error?]
  | ok value => simp [error?]

/-! ### Attempts -/

namespace Attempt

/-- The result of several attempts: a success if all of them were, and else the error of the one that
failed on the database with the smallest name. -/
structure Reports (attempts : List Attempt) (result : Except StoreError Unit) : Prop where
  eq_ok_iff : result = .ok () ↔ ∀ attempt ∈ attempts, attempt.outcome = .ok ()
  eq_error_iff : ∀ error, result = .error error ↔
    ∃ database, ⟨database, .error error⟩ ∈ attempts ∧
      ∀ other problem, ⟨other, .error problem⟩ ∈ attempts → database.name ≤ other.name

variable {attempts : List Attempt} {result : Except StoreError Unit}

/-- In the order of names, the first failure is the one with the smallest name. -/
theorem firstFailure?_eq_some_iff
    (inOrder : attempts.Pairwise fun first second => first.database.name < second.database.name)
    {error : StoreError} : firstFailure? attempts = some error ↔
      ∃ database, ⟨database, .error error⟩ ∈ attempts ∧
        ∀ other problem, ⟨other, .error problem⟩ ∈ attempts → database.name ≤ other.name := by
  have split_of_some : ∀ {error}, firstFailure? attempts = some error →
      ∃ before database after, attempts = before ++ ⟨database, .error error⟩ :: after ∧
        ∀ attempt ∈ before, attempt.outcome = .ok () := by
    intro error found
    obtain ⟨before, ⟨database, outcome⟩, after, split, failed, succeeded⟩ :=
      List.findSome?_eq_some_iff.mp found
    cases error?_eq_some_iff.mp failed
    exact ⟨before, database, after, split, fun attempt present =>
      error?_eq_none_iff.mp (succeeded attempt present)⟩
  constructor
  · intro found
    obtain ⟨before, database, after, rfl, succeeded⟩ := split_of_some found
    refine ⟨database, List.mem_append_right _ List.mem_cons_self, fun other problem present => ?_⟩
    rcases List.mem_append.mp present with isBefore | isRest
    · cases succeeded _ isBefore
    · rcases List.mem_cons.mp isRest with same | isAfter
      · cases same
        exact Std.le_refl _
      · have ordered := (List.pairwise_cons.mp (List.pairwise_append.mp inOrder).2.1).1
        exact Std.le_of_lt (ordered _ isAfter)
  · rintro ⟨database, isFailure, smallest⟩
    cases found : firstFailure? attempts with
    | none =>
      have succeeded := List.findSome?_eq_none_iff.mp found _ isFailure
      cases succeeded
    | some first =>
      obtain ⟨before, other, after, rfl, succeeded⟩ := split_of_some found
      have least := smallest other first (List.mem_append_right _ List.mem_cons_self)
      rcases List.mem_append.mp isFailure with isBefore | isRest
      · cases succeeded _ isBefore
      · rcases List.mem_cons.mp isRest with same | isAfter
        · cases same
          rfl
        · have ordered := (List.pairwise_cons.mp (List.pairwise_append.mp inOrder).2.1).1
          exact absurd (ordered _ isAfter) (Std.not_lt.mpr least)

/-- The first failure is what is reported of attempts in the order of names. -/
theorem reports_of_firstFailure
    (inOrder : attempts.Pairwise fun first second => first.database.name < second.database.name)
    (reported : error? result = firstFailure? attempts) : Reports attempts result where
  eq_ok_iff := by
    rw [← error?_eq_none_iff, reported, firstFailure?, List.findSome?_eq_none_iff]
    simp only [error?_eq_none_iff]
  eq_error_iff := fun error => by
    rw [← error?_eq_some_iff, reported, firstFailure?_eq_some_iff inOrder]

end Attempt

/-! ### Closing all -/

namespace RegistryId

/-- All databases of a registry were closed, whatever failed. -/
structure ClosesAll (id : RegistryId) (before : Site) (result : Except StoreError Unit)
    (after : Site) : Prop where
  isClosed : ∀ {name database}, (before.registry id).get? name = some database →
    database.isClosed after = true
  /-- One attempt was made for each database that was open, in the order of names, and the result is
  the one of all attempts. -/
  attempts : ∃ attempts, Site.Attempts attempts before after ∧
    attempts.map Attempt.database =
      (before.registry id).values.filter (fun database => !database.isClosed before) ∧
    (attempts.map Attempt.database).Nodup ∧ Attempt.Reports attempts result
  /-- The databases that are left were closed already, or belong to another registry. -/
  get?_eq_some_iff : ∀ {name database}, (after.registry id).get? name = some database ↔
    (before.registry id).get? name = some database ∧
      (database.isClosed before = true ∨ database.registry ≠ id)

end RegistryId

namespace Stage.IsSound

variable {stage : Stage}

/-- The databases of a registry are in the order of their names. -/
theorem values_inOrder (sound : stage.IsSound) (id : RegistryId) :
    (stage.site.registry id).values.Pairwise fun first second => first.name < second.name := by
  unfold SortedMap.values
  rw [List.pairwise_map]
  refine (stage.site.registry id).sorted.imp_of_mem fun isFirst isSecond less => ?_
  have named := (sound.listed (SortedMap.mem_entries.mp isFirst)).2
  have named' := (sound.listed (SortedMap.mem_entries.mp isSecond)).2
  rw [named, named']
  exact less

/-- Closing all databases of a registry closes each of them once, whatever fails. -/
theorem closesAll_closeAll (sound : stage.IsSound) (id : RegistryId) :
    id.ClosesAll stage.site (id.closeAll stage.site).1 (id.closeAll stage.site).2 := by
  have inOrder := sound.values_inOrder id
  have known : ∀ database ∈ (stage.site.registry id).values, database ∈ stage.databases :=
    fun database isValue => sound.mem_of_value isValue
  have valuesDiffer : (stage.site.registry id).values.Nodup := by
    refine inOrder.imp fun {first second} less same => ?_
    rw [same] at less
    exact Std.lt_irrefl less
  have idsDiffer : ((stage.site.registry id).values.map Database.id).Nodup :=
    List.Nodup.map_on (fun first isFirst second isSecond same =>
      sound.eq_of_id (known first isFirst) (known second isSecond) same) valuesDiffer
  have clears := sound.clears_closeAll id
  have isValue : ∀ {name database}, (stage.site.registry id).get? name = some database →
      database ∈ (stage.site.registry id).values := fun isListed =>
    List.mem_map_of_mem (f := Prod.snd) (SortedMap.mem_entries.mpr isListed)
  refine ⟨fun {name database} isListed => ?_, ?_, fun {name database} => ?_⟩
  · exact (clears.closed database.id).mpr (.inr (List.mem_map_of_mem (isValue isListed)))
  · obtain ⟨attempts, made, those, reported⟩ := RegistryId.attempts_closeEach idsDiffer
      fun database isValue => sound.added database (known database isValue)
    rw [← RegistryId.closeAll_apply] at made reported
    have attemptsInOrder := inOrder.filter fun database => !database.isClosed stage.site
    rw [← those, List.pairwise_map] at attemptsInOrder
    exact ⟨attempts, made, those, those ▸ valuesDiffer.filter _,
      Attempt.reports_of_firstFailure attemptsInOrder reported⟩
  · rw [clears.get?]
    refine and_congr_right fun isListed => ?_
    constructor
    · intro stays
      by_cases own : database.registry = id
      · exact .inl ((Bool.not_eq_false _).mp fun isOpen => stays ⟨isValue isListed, own, isOpen⟩)
      · exact .inr own
    · rintro (isClosed | isForeign) ⟨_, own, isOpen⟩
      · rw [isClosed] at isOpen
        cases isOpen
      · exact isForeign own

end Stage.IsSound

/-- **Closing all databases of a registry closes each of them, whatever fails.** An attempt is made
for each of those that are open, once, and for no other one. The result is a success if all attempts
are, and else the error of the first failure by name. What is left in the registry was closed
already, or belongs to another registry. -/
theorem Scene.Run.closesAll {files : FileTree} {scene : Scene} (run : Run (start files) scene)
    (id : RegistryId) :
    id.ClosesAll scene.site (id.closeAll scene.site).1 (id.closeAll scene.site).2 :=
  (Run.isSound run).stage.closesAll_closeAll id

/-- A storage that fails to close. -/
def flakyStorage : Storage := .faulty "flaky" [.close]

/-- Two databases that share it, and belong to different registries. -/
def ownFlaky : Database := ⟨⟨0⟩, flakyStorage, { databaseName := "a" }, ⟨0⟩⟩

def foreignFlaky : Database := ⟨⟨1⟩, flakyStorage, { databaseName := "b" }, ⟨1⟩⟩

/-- Both are registered in the registry of the first one. -/
def flakyScene : Scene where
  storages := [flakyStorage]
  databases := [foreignFlaky, ownFlaky]
  connections := []
  site :=
    let site : Site := { databases := ⟨[{}, {}]⟩, registries := ⟨[.empty, .empty]⟩ }
    let site := (RegistryId.register ⟨0⟩ ownFlaky site).2
    (RegistryId.register ⟨0⟩ foreignFlaky site).2

theorem run_flakyScene : Scene.Run (.start {}) flakyScene := by
  have created : Scene.Run (.start {})
      { flakyScene with
        site := { databases := ⟨[{}, {}]⟩, registries := ⟨[.empty, .empty]⟩ } } :=
    .tail (.tail (.tail (.tail (.tail .refl (.made (.faulty "flaky" [.close]) rfl))
      (.acted .addedRegistry)) (.acted .addedRegistry))
      (.created ⟨0⟩ List.mem_cons_self (by decide) rfl))
      (.created ⟨1⟩ List.mem_cons_self (by decide) rfl)
  have isOwn : ownFlaky ∈ flakyScene.databases := List.mem_cons_of_mem _ List.mem_cons_self
  exact .tail (.tail created (.acted (.registered ⟨0⟩ (by decide) isOwn)))
    (.acted (.registered ⟨0⟩ (by decide) List.mem_cons_self))

/-- Both attempts fail, and the first failure is reported. Only the database that belongs to another
registry is left, which is closed as well. -/
theorem closesAll_flakyScene :
    (RegistryId.closeAll ⟨0⟩ flakyScene.site).1 = .error (.corrupt "flaky" (.failed .close)) ∧
      ((RegistryId.closeAll ⟨0⟩ flakyScene.site).2.registry ⟨0⟩).get? "b" = some foreignFlaky ∧
      foreignFlaky.isClosed (RegistryId.closeAll ⟨0⟩ flakyScene.site).2 = true ∧
      ((RegistryId.closeAll ⟨0⟩ flakyScene.site).2.registry ⟨0⟩).get? "a" = none := by
  have closesAll := Scene.Run.closesAll run_flakyScene ⟨0⟩
  have isListed : (flakyScene.site.registry ⟨0⟩).get? "b" = some foreignFlaky := rfl
  refine ⟨rfl, closesAll.get?_eq_some_iff.mpr ⟨isListed, .inr (by decide)⟩,
    closesAll.isClosed isListed, ?_⟩
  refine Option.eq_none_iff_forall_ne_some.mpr fun database isLeft => ?_
  obtain ⟨wasListed, isClosed | isForeign⟩ := closesAll.get?_eq_some_iff.mp isLeft
  · cases wasListed
    cases isClosed
  · cases wasListed
    exact isForeign rfl

end StoreTopology
