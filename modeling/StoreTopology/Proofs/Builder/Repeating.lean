/-
**What was built is built again.**

* `Built.Alike`: two sections built the same, apart from cells and numbers;
* `Built.blobDirectories`: the blob directories that they were given;
* `Builder.ensureDirectory_again`: a blob directory that was made is made again, if it can be reached;
* `Catalog.repeats_leaf`, `Catalog.repeats_inner`: the built-in builders build again what they built.
-/

import StoreTopology.Proofs.Builder.Growing
import StoreTopology.Proofs.Repetition
import StoreTopology.Proofs.Storage.Reopening

namespace StoreTopology

open StoreTopology.Action

/-! ### Built sections that are alike -/

/-- Two databases have the same settings and storages that are alike. -/
structure Database.Alike (first second : Database) : Prop where
  settings : first.settings = second.settings
  storage : first.storage.Alike second.storage

theorem Database.Alike.describe {first second : Database} (alike : first.Alike second) :
    first.describe = second.describe := by
  unfold Database.describe
  rw [alike.settings, alike.storage.describe]

namespace Built

/-- Two sections built storages or databases that are alike. -/
inductive Alike : Built → Built → Prop
  | storage {first second : Storage} (alike : first.Alike second) :
      Alike (.storage first) (.storage second)
  | database {first second : Database} (alike : first.Alike second) :
      Alike (.database first) (.database second)

instance : Std.Refl Alike :=
  ⟨fun
    | .storage _ => .storage ⟨rfl, rfl⟩
    | .database _ => .database ⟨rfl, ⟨rfl, rfl⟩⟩⟩

/-- The storage that a section built, or the one of its database. -/
def inner : Built → Storage
  | storage only => only
  | database top => top.storage

/-- The blob directories that a section and those nested in it were given. -/
def blobDirectories (built : Built) : List (String × UInt32) := built.inner.blobDirectories

end Built

/-! ### Built-in builders -/

namespace Builder

variable {registry otherRegistry : RegistryId} {name : Option String} {options : Options}
  {children others : List Built} {site after later : Site} {built : Built}

/-- A mapping storage is built again. -/
theorem repeats_mapping : Repeats 0 Built.Alike Built.blobDirectories
    (mapping.build registry name options children)
    (mapping.build otherRegistry name options others) where
  keeps := fun _ {_ _ _} succeeded => by
    cases succeeded
    rfl
  again := fun {_ _ _} succeeded _ _ => by
    cases succeeded
    exact .succeeds rfl (List.forall_mem_nil _) (.storage (Storage.alike_mapping _ _ _))

/-- A demo storage is built over one storage. -/
theorem demo_eq_ok (succeeded : demo.build registry name options children site =
      (.ok built, after)) :
    ∃ base given changes, children = [.storage base] ∧
      built = .storage (.demo given base changes) := by
  obtain ⟨base, _, only, _⟩ := bind_eq_ok_iff.mp succeeded
  cases onlyStorage_eq_ok (Prod.mk.inj only).1
  cases succeeded
  exact ⟨base, _, _, rfl, rfl⟩

variable {child other : Built}

/-- A demo storage is built again over a storage that is like the first one. -/
theorem repeats_demo (alike : child.Alike other) :
    Repeats 0 Built.Alike (fun _ => []) (demo.build registry name options [child])
      (demo.build otherRegistry name options [other]) := by
  cases alike with
  | storage same =>
    refine .of_idle (fun succeeded => ?_) fun succeeded later => ?_
    · cases succeeded
      rfl
    · cases succeeded
      exact ⟨_, _, rfl, rfl, .storage (same.demo _ _ _)⟩
  | database _ => exact .of_idle (fun failed => nomatch failed) fun failed => nomatch failed

/-- A database over one storage, from its settings. -/
theorem database_apply {settings : DatabaseSettings}
    (settled : databaseSettings name options = .ok settings) (storage : Storage) (site : Site) :
    database.build registry name options [.storage storage] site =
      (.ok (.database ⟨⟨site.databases.next⟩, storage, settings, registry⟩),
        { site.log .debug ("Building database '" ++ settings.databaseName ++ "' over " ++
            storage.name) with databases := site.databases.add {} }) := by
  have settles : (databaseSettings name options).mapError ConfigError.option = .ok settings := by
    rw [settled]
    rfl
  show (ofExcept ((databaseSettings name options).mapError ConfigError.option) >>= _) site = _
  rw [settles]
  rfl

/-- A database is built again over a storage that is like the first one. -/
theorem repeats_database (alike : child.Alike other) :
    Repeats 0 Built.Alike (fun _ => []) (database.build registry name options [child])
      (database.build otherRegistry name options [other]) := by
  cases alike with
  | storage same =>
    refine .of_idle (fun succeeded => ?_) fun succeeded later => ?_
    · obtain ⟨storage, settings, _, settled, _⟩ := database_eq_ok succeeded
      rw [database_apply settled] at succeeded
      cases succeeded
      rfl
    · obtain ⟨storage, settings, only, settled, rfl, _⟩ := database_eq_ok succeeded
      cases only
      exact ⟨_, _, database_apply settled _ later, rfl, .database ⟨rfl, same⟩⟩
  | database _ => exact .of_idle (fun failed => nomatch failed) fun failed => nomatch failed

/-! ### File storages -/

theorem ensureDirectory_apply (path : String) (mode : UInt32) (site : Site) :
    ensureDirectory path mode site =
      let logged := site.log .debug ("Creating " ++ path ++ " with mode " ++
        String.ofList (Nat.toDigits 8 mode.toNat) ++ "...")
      match site.files.makeDirectories path mode.toNat with
      | (.error problem, files) => (.error (.files problem), { logged with files })
      | (.ok _, made) =>
        match made.setMode path mode.toNat with
        | .ok files => (.ok (), { logged with files })
        | .error problem => (.error (.files problem), { logged with files := made }) := by
  unfold ensureDirectory
  rw [bind_of_ok (log_apply _ _)]
  dsimp only
  split
  · next problem files failed => exact bind_of_error (onFiles_of_error failed)
  · next made succeeded =>
    rw [bind_of_ok (onFiles_of_ok succeeded)]
    split
    · next files given =>
      refine onFiles_of_ok ?_
      dsimp only
      rw [given]
    · next problem failed =>
      refine onFiles_of_error ?_
      dsimp only
      rw [failed]

/-- A blob directory that was made, by what its path leads to. -/
theorem holdsDirectory_of_ensureDirectory {path : String} {mode : UInt32}
    (ensured : ensureDirectory path mode site = (.ok (), after)) :
    ∃ made place, FileTree.HoldsDirectory made after.files path place mode.toNat := by
  rw [ensureDirectory_apply] at ensured
  dsimp only at ensured
  split at ensured
  · cases ensured
  · next made succeeded =>
    split at ensured
    · next files given =>
      cases ensured
      exact ⟨made, FileTree.holdsDirectory succeeded given⟩
    · cases ensured

/-- A blob directory that was made is made again if it can be reached, and no file changes. -/
theorem ensureDirectory_again {path : String} {mode : UInt32} {made : FileTree} {place : Path}
    (holds : FileTree.HoldsDirectory made site.files path place mode.toNat) :
    IsRepeated (fun _ _ => True) [(path, mode)] () site.files
      (Action.mapError ConfigError.storage (ensureDirectory path mode) site) := by
  have reached : Access.search.isGrantedBy mode.toNat = true → site.files.pathExists path = true :=
    holds.reached
  unfold Action.mapError
  rw [ensureDirectory_apply]
  dsimp only
  cases exists_ : site.files.pathExists path with
  | true =>
    obtain ⟨again, given⟩ := holds.again exists_
    rw [again]
    dsimp only
    rw [given]
    exact .succeeds rfl (List.forall_mem_singleton.mpr exists_) trivial
  | false =>
    rw [holds.refused exists_]
    refine .fails rfl (fun all => ?_) (List.forall_mem_singleton.mpr reached)
    rw [List.forall_mem_singleton.mp all] at exists_
    cases exists_

/-- The last step of building a file storage. -/
def openStorage (settings : FileSettings) : Action ConfigError Built := do
  let storage ← (Storage.openFile settings).mapError .storage
  return .storage storage

theorem openStorage_apply (settings : FileSettings) (site : Site) :
    openStorage settings site =
      match Storage.openFile settings site with
      | (.ok storage, after) => (.ok (.storage storage), after)
      | (.error error, after) => (.error (.storage error), after) := by
  unfold openStorage
  split
  · next storage after opened =>
    rw [bind_of_ok (mapError_eq_ok_iff.mpr opened)]
    rfl
  · next error after failed => rw [bind_of_error (mapError_of_error failed)]

variable {settings : FileSettings}

/-- The directories stay when a data file is opened. -/
theorem openStorage_eq_ok (opened : openStorage settings site = (.ok built, after)) :
    FileTree.SameDirectories site.files after.files ∧
      ∃ cell, built = .storage (.file settings cell) := by
  rw [openStorage_apply] at opened
  split at opened
  · next storage between isOpened =>
    cases opened
    obtain ⟨cell, records, rfl, _, ⟨same, _⟩ | ⟨_, replaced⟩⟩ := Storage.openFile_eq_ok isOpened
    · rw [same]
      exact ⟨.refl _, cell, rfl⟩
    · exact ⟨FileTree.sameDirectories_of_replaceFile replaced, cell, rfl⟩
  · cases opened

/-- A data file that was opened is opened again. -/
theorem openStorage_again (opened : openStorage settings site = (.ok built, after))
    (same : later.files = after.files) :
    IsRepeated Built.Alike [] built later.files (openStorage settings later) := by
  obtain ⟨_, cell, rfl⟩ := openStorage_eq_ok opened
  rw [openStorage_apply] at opened ⊢
  split at opened
  · next storage between isOpened =>
    cases opened
    obtain ⟨other, left, again, kept⟩ := Storage.openFile_again isOpened same
    rw [again]
    exact .succeeds kept (List.forall_mem_nil _) (.storage (Storage.alike_file _ _ _))
  · cases opened

/-- The steps of building a file storage with its settings. -/
def prepareStorage (settings : FileSettings) : Action ConfigError Built :=
  match settings.blobDirectory with
  | some directory =>
    Action.mapError .storage (ensureDirectory directory settings.blobPermissions) >>= fun _ =>
      openStorage settings
  | none => openStorage settings

theorem file_build_eq : file.build registry name options children =
    Action.ofExcept ((fileSettings options).mapError ConfigError.option) >>= prepareStorage := by
  refine congrArg (Action.ofExcept ((fileSettings options).mapError ConfigError.option) >>= ·) ?_
  funext settings
  unfold prepareStorage
  cases asked : settings.blobDirectory with
  | none => rfl
  | some directory => rfl

theorem blobDirectories_file (settings : FileSettings) (cell : CellId) :
    Built.blobDirectories (.storage (.file settings cell)) = settings.blobDirectory.toList.map
      fun directory => (directory, settings.blobPermissions) := rfl

/-- A file storage is opened again if its blob directory can still be reached. -/
theorem repeats_prepareStorage (settings : FileSettings) :
    Repeats 1 Built.Alike Built.blobDirectories (prepareStorage settings)
      (prepareStorage settings) where
  keeps := fun none => nomatch none
  again := fun {site built after} succeeded later same => by
    have isSame : later.files = after.files := same Nat.one_ne_zero
    unfold prepareStorage at succeeded ⊢
    cases asked : settings.blobDirectory with
    | none =>
      rw [asked] at succeeded
      obtain ⟨_, cell, rfl⟩ := openStorage_eq_ok succeeded
      rw [blobDirectories_file, asked]
      exact openStorage_again succeeded isSame
    | some directory =>
      rw [asked] at succeeded
      obtain ⟨_, between, ensured, opened⟩ := bind_eq_ok_iff.mp succeeded
      obtain ⟨made, place, holds⟩ :=
        holdsDirectory_of_ensureDirectory (mapError_eq_ok_iff.mp ensured)
      obtain ⟨sameDirectories, cell, rfl⟩ := openStorage_eq_ok opened
      have ensuredAgain := ensureDirectory_again (isSame ▸ holds.of_same sameDirectories)
      rw [blobDirectories_file, asked]
      refine ensuredAgain.bind trivial fun _ left _ kept => ?_
      have openedAgain := openStorage_again opened (kept.trans isSame)
      rwa [kept] at openedAgain

theorem repeats_file : Repeats 1 Built.Alike Built.blobDirectories
    (file.build registry name options children)
    (file.build otherRegistry name options others) := by
  have settles : Repeats 0 (· = ·) (fun _ => [])
      (Action.ofExcept ((fileSettings options).mapError ConfigError.option))
      (Action.ofExcept ((fileSettings options).mapError ConfigError.option)) :=
    .of_same (fun _ => rfl) (fun _ => rfl) fun _ _ => rfl
  rw [file_build_eq, file_build_eq]
  exact settles.after (Nat.le_refl 1) repeats_prepareStorage

end Builder

namespace Catalog

variable {registry otherRegistry : RegistryId} {name : Option String} {options : Options}
  {child other : Built} {typeName : String} {builder : Builder}

/-- The section is a file storage itself. -/
def fileCount (typeName : String) : Nat :=
  if Text.lowercased typeName = "filestorage" then 1 else 0

/-- What is built of no other section is built again. -/
theorem repeats_leaf (found : builtIn.lookup? typeName = some builder)
    (leaf : builder.children = .none) :
    Repeats (fileCount typeName) Built.Alike Built.blobDirectories
      (builder.build registry name options []) (builder.build otherRegistry name options []) := by
  unfold fileCount
  rcases builtIn_cases found with ⟨isType, rfl⟩ | ⟨isType, rfl⟩ | ⟨_, rfl⟩ | ⟨_, rfl⟩
  · rw [isType, if_neg (by decide)]
    exact Builder.repeats_mapping
  · rw [isType, if_pos rfl]
    exact Builder.repeats_file
  · cases leaf
  · cases leaf

variable {kind : SectionKind}

theorem fileCount_of_inner (found : builtIn.lookup? typeName = some builder)
    (takes : builder.children = .one kind) : fileCount typeName = 0 := by
  unfold fileCount
  rcases builtIn_cases found with ⟨_, rfl⟩ | ⟨_, rfl⟩ | ⟨isType, rfl⟩ | ⟨isType, rfl⟩
  · cases takes
  · cases takes
  · rw [isType, if_neg (by decide)]
  · rw [isType, if_neg (by decide)]

/-- What is built over a storage is built again over one that is alike. -/
theorem repeats_inner (found : builtIn.lookup? typeName = some builder)
    (takes : builder.children = .one kind) (alike : child.Alike other) :
    Repeats 0 Built.Alike (fun _ => []) (builder.build registry name options [child])
      (builder.build otherRegistry name options [other]) := by
  rcases builtIn_cases found with ⟨_, rfl⟩ | ⟨_, rfl⟩ | ⟨_, rfl⟩ | ⟨_, rfl⟩
  · cases takes
  · cases takes
  · exact Builder.repeats_demo alike
  · exact Builder.repeats_database alike

/-- What is built over a storage has the blob directories of that storage. -/
theorem blobDirectories_inner (found : builtIn.lookup? typeName = some builder)
    (takes : builder.children = .one kind) {site after : Site} {built : Built}
    (succeeded : builder.build registry name options [child] site = (.ok built, after)) :
    built.blobDirectories = child.blobDirectories := by
  rcases builtIn_cases found with ⟨_, rfl⟩ | ⟨_, rfl⟩ | ⟨_, rfl⟩ | ⟨_, rfl⟩
  · cases takes
  · cases takes
  · obtain ⟨base, given, changes, only, rfl⟩ := Builder.demo_eq_ok succeeded
    cases only
    rfl
  · obtain ⟨storage, settings, only, _, rfl, _⟩ := Builder.database_eq_ok succeeded
    cases only
    rfl

end Catalog

end StoreTopology
