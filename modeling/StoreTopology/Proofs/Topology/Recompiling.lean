/-
**A text is compiled again.**

* `Section.fileStorages`: the file storages among a section and those nested in it;
* `Catalog.repeats_build`: a section with at most one of them is built again;
* `Catalog.isRepeated_buildDatabases`: and so are the databases of a text.
-/

import StoreTopology.Proofs.Builder.Repeating
import StoreTopology.Proofs.Database.Closing
import StoreTopology.Proofs.Topology.Compilation
import StoreTopology.Proofs.Topology.Description
import StoreTopology.Proofs.Topology.Moving

namespace StoreTopology

open StoreTopology.Action

/-! ### File storages of a text -/

namespace Section

mutual

/-- The number of file storages among a section and those nested in it. -/
def fileStorages : Section → Nat
  | ⟨typeName, _, _, children, _, _⟩ => Catalog.fileCount typeName + fileStoragesAll children

/-- The number of file storages among sections and those nested in them. -/
def fileStoragesAll : List Section → Nat
  | [] => 0
  | block :: rest => fileStorages block + fileStoragesAll rest

end

theorem fileStorages_eq (block : Section) :
    block.fileStorages = Catalog.fileCount block.typeName + fileStoragesAll block.children := by
  cases block
  rw [fileStorages]

end Section

/-! ### One section -/

namespace Catalog

variable {registry otherRegistry : RegistryId} {block : Section} {forest : List Section}
  {expected : SectionKind}

/-- Settling options and logging ends on any site as on any other. -/
theorem repeats_settle {α : Type} {count : Nat} {alike : α → α → Prop}
    {asks : α → List (String × UInt32)} {next otherNext : Options → Action ConfigError α}
    (schema : OptionSchema) (block : Section) (level : LogLevel) (text : String) (few : count ≤ 1)
    (rest : ∀ options, Repeats count alike asks (next options) (otherNext options)) :
    Repeats count alike asks
      (settleOptions schema block >>= fun options => Action.log level text >>= fun _ => next options)
      (settleOptions schema block >>= fun options => Action.log level text >>= fun _ =>
        otherNext options) := by
  have settles : Repeats 0 (· = ·) (fun _ => []) (settleOptions schema block)
      (settleOptions schema block) :=
    .of_same (fun site => (sameStores_settleOptions schema block site).files)
      (fun site => (sameStores_settleOptions schema block site).files) fun _ _ => rfl
  have logs : Repeats 0 (· = ·) (fun _ => []) (Action.log level text : Action ConfigError Unit)
      (Action.log level text) := .of_same (fun _ => rfl) (fun _ => rfl) fun _ _ => rfl
  exact settles.after few fun options => logs.after few fun _ => rest options

/-- What is done with the one nested section after it was built. -/
theorem buildAll_singleton_bind {α : Type} (catalog : Catalog) (registry : RegistryId)
    (block : Section) (next : List Built → Action ConfigError α) :
    buildAll catalog registry [block] >>= next =
      build catalog registry block >>= fun first => next [first] := by
  funext site
  cases ran : build catalog registry block site with
  | mk outcome after =>
    cases outcome with
    | ok first =>
      have all : buildAll catalog registry [block] site = (.ok [first], after) := by
        rw [buildAll, buildAll, bind_of_ok ran]
        rfl
      rw [bind_of_ok ran, bind_of_ok all]
    | error error =>
      have all : buildAll catalog registry [block] site = (.error error, after) := by
        rw [buildAll, bind_of_error ran]
      rw [bind_of_error ran, bind_of_error all]

/-- **A section with at most one file storage is built again.** -/
theorem repeats_build (valid : validate builtIn expected block = .ok ())
    (few : block.fileStorages ≤ 1) :
    Repeats block.fileStorages Built.Alike Built.blobDirectories (build builtIn registry block)
      (build builtIn otherRegistry block) := by
  induction block using Section.induction generalizing expected with
  | step block ih =>
    obtain ⟨builder, found, _, shape⟩ := validate_eq_ok_iff.mp valid
    rw [build_of_lookup? found, build_of_lookup? found]
    rw [Section.fileStorages_eq] at few ⊢
    rcases shape with ⟨leaf, none⟩ | ⟨kind, child, takes, only, validChild⟩
    · rw [none] at few ⊢
      rw [buildAll, buildAll]
      exact repeats_settle _ block _ _ few fun _ => repeats_leaf found leaf
    · have own := fileCount_of_inner found takes
      rw [only, own, Nat.zero_add, Section.fileStoragesAll, Section.fileStoragesAll] at few ⊢
      rw [buildAll_singleton_bind, buildAll_singleton_bind]
      have nested := ih child (only ▸ List.mem_singleton_self child) validChild few
      refine nested.before few (fun first other alike => repeats_settle _ block _ _ (Nat.zero_le 1)
        fun _ => repeats_inner found takes alike) fun {first site result after} succeeded => ?_
      obtain ⟨options, _, _, succeeded⟩ := bind_eq_ok_iff.mp succeeded
      obtain ⟨_, _, _, succeeded⟩ := bind_eq_ok_iff.mp succeeded
      exact blobDirectories_inner found takes succeeded

end Catalog

/-! ### Databases of a text -/

namespace Catalog

variable {registry : RegistryId} {block : Section} {forest : List Section}
  {site after : Site} {database : Database} {done : List Database}

/-- A database section that builds a database whose name is free succeeds. -/
theorem buildDatabase_of_free (built : build builtIn registry block site =
      (.ok (.database database), after)) (holds : registry.Holds site done)
    (other : block.databaseName ∉ done.map Database.name) :
    ∃ between, buildDatabase builtIn registry block site = (.ok database, between) ∧
      between.files = after.files := by
  have grown := holds.of_grows ((grows_build isFresh_builtIn registry block).of_ok built)
  rw [← name_of_build built] at other
  have registered := RegistryId.register_eq_ok_iff.mpr ⟨grown.lists.free other, rfl⟩
  exact ⟨_, buildDatabase_eq_ok_iff.mpr ⟨after, built, registered⟩, rfl⟩

theorem buildDatabase_of_error {error : ConfigError}
    (failed : build builtIn registry block site = (.error error, after)) :
    buildDatabase builtIn registry block site = (.error error, after) := by
  unfold buildDatabase
  exact bind_of_error failed

/-- A database is built and registered again if its name is free. -/
theorem isRepeated_buildDatabase (otherRegistry : RegistryId)
    (valid : validate builtIn .database block = .ok ()) (few : block.fileStorages ≤ 1)
    (built : buildDatabase builtIn registry block site = (.ok database, after)) :
    (block.fileStorages = 0 → after.files = site.files) ∧
      ∀ {later : Site} {done : List Database}, otherRegistry.Holds later done →
        block.databaseName ∉ done.map Database.name →
          (block.fileStorages ≠ 0 → later.files = after.files) →
            IsRepeated Database.Alike database.storage.blobDirectories database later.files
              (buildDatabase builtIn otherRegistry block later) := by
  obtain ⟨between, isBuilt, registered⟩ := buildDatabase_eq_ok_iff.mp built
  obtain ⟨_, rfl⟩ := RegistryId.register_eq_ok_iff.mp registered
  have repeats : Repeats block.fileStorages Built.Alike Built.blobDirectories
      (build builtIn registry block) (build builtIn otherRegistry block) := repeats_build valid few
  refine ⟨fun none => ?_, fun {later done} holds other same => ?_⟩
  · have kept : between.files = site.files := repeats.keeps none isBuilt
    exact kept
  have repeated := repeats.again isBuilt later same
  cases ran : build builtIn otherRegistry block later with
  | mk outcome left =>
    rw [ran] at repeated
    cases outcome with
    | error error =>
      rw [buildDatabase_of_error ran]
      exact .fails repeated.files repeated.unreached repeated.reached
    | ok again =>
      cases repeated.alike again rfl with
      | database alike =>
        obtain ⟨last, builtAgain, kept⟩ := buildDatabase_of_free ran holds other
        rw [builtAgain]
        exact .succeeds (kept.trans repeated.files) (repeated.succeeds_iff.mp ⟨_, rfl⟩) alike

/-- Top-level sections are built in turn. If one fails, what is registered is closed. -/
theorem buildDatabases_cons_apply (catalog : Catalog) (registry : RegistryId) (block : Section)
    (forest : List Section) (site : Site) :
    buildDatabases catalog registry (block :: forest) site =
      match buildDatabase catalog registry block site with
      | (.ok database, between) =>
        ((buildDatabases catalog registry forest between).1.map fun others => database :: others,
          (buildDatabases catalog registry forest between).2)
      | (.error error, between) => (.error error, (registry.closeAll between).2) := by
  rw [buildDatabases, bind_of_ok (outcome_apply _)]
  split
  · next database between ran =>
    rw [ran]
    exact bind_pure_apply _ _ _
  · next error between failed =>
    rw [failed]
    rfl

/-- The descriptions of databases under their names. -/
def descriptions (databases : List Database) : List (String × Json) :=
  databases.map fun database => (database.name, database.describe)

theorem descriptions_cons {second : Database} (alike : database.Alike second)
    {others more : List Database} (same : descriptions others = descriptions more) :
    descriptions (database :: others) = descriptions (second :: more) := by
  have names : database.name = second.name := congrArg DatabaseSettings.databaseName alike.settings
  unfold descriptions at same ⊢
  rw [List.map_cons, List.map_cons, names, alike.describe, same]

variable {databases : List Database}

/-- Sections are built again if the first one is and, after it, so are the others. -/
theorem isRepeated_cons {later : Site} {tree : FileTree} {asked more : List (String × UInt32)}
    (first : IsRepeated Database.Alike asked database tree
      (buildDatabase builtIn registry block later))
    (reached : ∀ directory ∈ more, Access.search.isGrantedBy directory.2.toNat = true →
      tree.pathExists directory.1 = true)
    (rest : ∀ {again left}, buildDatabase builtIn registry block later = (.ok again, left) →
      left.files = tree →
        IsRepeated (fun first second => descriptions first = descriptions second) more databases
          tree (buildDatabases builtIn registry forest left)) :
    IsRepeated (fun first second => descriptions first = descriptions second) (asked ++ more)
      (database :: databases) tree (buildDatabases builtIn registry (block :: forest) later) := by
  rw [buildDatabases_cons_apply]
  cases ran : buildDatabase builtIn registry block later with
  | mk outcome left =>
    rw [ran] at first
    cases outcome with
    | error error =>
      exact first.of_error ((RegistryId.files_closeAll _ _).trans first.files) reached
    | ok again =>
      exact first.of_ok ((rest ran first.files).map (fun others => database :: others)
        fun more same => descriptions_cons (first.alike again rfl) same)

/-- **The databases of sections with at most one file storage are built again.** -/
theorem isRepeated_buildDatabases (otherRegistry : RegistryId)
    (valid : ∀ block ∈ forest, validate builtIn .database block = .ok ())
    (few : Section.fileStoragesAll forest ≤ 1)
    (built : buildDatabases builtIn registry forest site = (.ok databases, after)) :
    (Section.fileStoragesAll forest = 0 → after.files = site.files) ∧
      ∀ {later : Site} {done : List Database}, otherRegistry.Holds later done →
        (done.map Database.name ++ forest.map Section.databaseName).Nodup →
          (Section.fileStoragesAll forest ≠ 0 → later.files = after.files) →
            IsRepeated (fun first second => descriptions first = descriptions second)
              (databases.flatMap fun database => database.storage.blobDirectories) databases
              later.files (buildDatabases builtIn otherRegistry forest later) := by
  induction forest generalizing site databases with
  | nil =>
    cases built
    exact ⟨fun _ => rfl, fun _ _ _ => .succeeds rfl (List.forall_mem_nil _) rfl⟩
  | cons block rest ih =>
    obtain ⟨database, between, others, builtFirst, builtOthers, rfl⟩ :=
      buildDatabases_cons_iff.mp built
    obtain ⟨validFirst, validRest⟩ := List.forall_mem_cons.mp valid
    rw [Section.fileStoragesAll] at few ⊢
    obtain ⟨firstKeeps, firstAgain⟩ := isRepeated_buildDatabase otherRegistry validFirst
      (by omega) builtFirst
    obtain ⟨restKeeps, restAgain⟩ := ih validRest (by omega) builtOthers
    refine ⟨fun none => (restKeeps (by omega)).trans (firstKeeps (by omega)),
      fun {later done} holds differ same => ?_⟩
    rw [List.map_cons] at differ
    have isFree : block.databaseName ∉ done.map Database.name := fun taken =>
      (List.nodup_append.mp differ).2.2 _ taken _ List.mem_cons_self rfl
    have first := firstAgain holds isFree fun counted => by
      rw [← restKeeps (by omega)]
      exact same (by omega)
    have ends : ∀ {left : Site} {more : List Database}, otherRegistry.Holds left more →
        (more.map Database.name ++ rest.map Section.databaseName).Nodup →
          left.files = later.files → IsRepeated
            (fun first second => descriptions first = descriptions second)
            (others.flatMap fun database => database.storage.blobDirectories) others later.files
            (buildDatabases builtIn otherRegistry rest left) := by
      intro left more holdsMore differMore kept
      have ended := restAgain holdsMore differMore fun counted => kept.trans (same (by omega))
      rwa [kept] at ended
    have without : (done.map Database.name ++ rest.map Section.databaseName).Nodup :=
      differ.sublist ((List.sublist_cons_self _ _).append_left _)
    rw [List.flatMap_cons]
    refine isRepeated_cons first (ends holds without rfl).reached fun {again left} ran kept => ?_
    obtain ⟨_, isBuilt, _⟩ := buildDatabase_eq_ok_iff.mp ran
    have differAgain : ((done ++ [again]).map Database.name ++
        rest.map Section.databaseName).Nodup := by
      rw [List.map_append, List.map_singleton, name_of_build isBuilt, List.append_assoc]
      exact differ
    exact ends (holds.buildDatabase isFresh_builtIn ran) differAgain kept

end Catalog

/-! ### Compiling again -/

namespace Catalog

variable {text : String} {forest : List Section} {site after : Site} {topology : Topology}

/-- A text that was compiled is valid. -/
theorem valid_of_compile {catalog : Catalog} (parsed : parse text = .ok forest)
    (compiled : catalog.compile text site = (.ok topology, after)) :
    validateAll catalog .database forest = .ok () := by
  obtain ⟨sections, _, read, compiled⟩ := bind_eq_ok_iff.mp compiled
  rw [readSections_of_parse parsed] at read
  cases read
  obtain ⟨_, _, valid, _⟩ := bind_eq_ok_iff.mp compiled
  exact (Prod.mk.inj valid).1

end Catalog

/-- The blob directories of all databases of a topology, with their permission bits. -/
def Topology.blobDirectories (topology : Topology) : List (String × UInt32) :=
  topology.databases.flatMap fun database => database.storage.blobDirectories

/-- What a compilation made is made again, with the databases closed. -/
theorem isRepeated_compile {text : String} {forest : List Section} {site after : Site}
    {topology : Topology} (parsed : parse text = .ok forest)
    (few : Section.fileStoragesAll forest ≤ 1)
    (compiled : Catalog.builtIn.compile text site = (.ok topology, after)) :
    IsRepeated (fun first second => second.describe = first.describe) topology.blobDirectories
      topology after.files (Catalog.builtIn.compile text (topology.close after).2) := by
  have valid := Catalog.valid_of_compile parsed compiled
  obtain ⟨sections, parsedSections, isNew, built⟩ := Catalog.compile_eq_ok compiled
  cases parsed.symm.trans parsedSections
  have nothing : topology.registry.Holds site.addRegistry.2 [] := by
    rw [isNew]
    exact .addRegistry site
  have differ := (nothing.buildDatabases Catalog.isFresh_builtIn built).namesDiffer
  rw [List.nil_append, Catalog.names_of_buildDatabases built] at differ
  have closed : (topology.close after).2.files = after.files :=
    RegistryId.files_closeAll topology.registry after
  obtain ⟨_, again⟩ := Catalog.isRepeated_buildDatabases (topology.close after).2.addRegistry.1
    (Catalog.validateAll_eq_ok_iff.mp valid) few built
  have repeated := again (.addRegistry _) differ fun _ => closed
  rw [Catalog.compile_of_valid parsed valid, bind_pure_apply, ← closed]
  refine repeated.map (fun databases => Topology.mk databases topology.registry)
    fun databases same => ?_
  show Json.ofMembers [("databases", .ofMembers (Catalog.descriptions databases))] = _
  rw [← same]
  rfl

/-- **A text with at most one file storage is compiled again.** With the files that its compilation
left, and its databases closed, compiling it again changes no file. It succeeds if the paths of the
blob directories still lead somewhere, which they do if their permission bits let them be searched.
Then the topologies have the same description. -/
theorem compile_again {text : String} {forest : List Section} {site after : Site}
    {topology : Topology} (parsed : parse text = .ok forest)
    (few : Section.fileStoragesAll forest ≤ 1)
    (compiled : Catalog.builtIn.compile text site = (.ok topology, after)) :
    let again := Catalog.builtIn.compile text (topology.close after).2
    again.2.files = after.files ∧
      ((∃ other, again.1 = .ok other) ↔
        ∀ directory ∈ topology.blobDirectories, after.files.pathExists directory.1 = true) ∧
      (∀ directory ∈ topology.blobDirectories,
        Access.search.isGrantedBy directory.2.toNat = true →
          after.files.pathExists directory.1 = true) ∧
      ∀ other, again.1 = .ok other → other.describe = topology.describe := by
  have repeated := isRepeated_compile parsed few compiled
  exact ⟨repeated.files, repeated.succeeds_iff, repeated.reached, repeated.alike⟩

/-- A text with a file storage whose blob directory is the directory that its path leads through,
with permission bits that let nobody search it. -/
def withdrawnText : String :=
  "<zodb>\n<filestorage>\npath data\nblob-dir d/.\nblob-dir-permissions 600\n" ++
    "</filestorage>\n</zodb>\n"

/-- A site with that directory. -/
def withdrawnSite : Site := { files := FileTree.empty.put ["d"] (.directory 0o755) }

/-- The error with which a text cannot be compiled again. -/
def errorAgain? (text : String) (site : Site) : Option ConfigError :=
  let first := Catalog.builtIn.compile text site
  first.1.toOption.bind fun topology =>
    error? (Catalog.builtIn.compile text (topology.close first.2).2).1

theorem errorAgain?_eq_some {text : String} {site : Site} {error : ConfigError}
    (fails : errorAgain? text site = some error) :
    ∃ topology after, Catalog.builtIn.compile text site = (.ok topology, after) ∧
      (Catalog.builtIn.compile text (topology.close after).2).1 = .error error := by
  obtain ⟨topology, isOk, again⟩ := Option.bind_eq_some_iff.mp fails
  exact ⟨topology, _, Prod.ext (toOption_eq_some_iff.mp isOk) rfl, error?_eq_some_iff.mp again⟩

/-- A text with one file storage is compiled, and cannot be compiled again. -/
theorem compile_again_withdrawn :
    ((parse withdrawnText).toOption.map Section.fileStoragesAll) = some 1 ∧
      ∃ topology after, Catalog.builtIn.compile withdrawnText withdrawnSite =
          (.ok topology, after) ∧
        (Catalog.builtIn.compile withdrawnText (topology.close after).2).1 =
          .error (.storage (.files .permissionDenied)) :=
  ⟨by decide +kernel, errorAgain?_eq_some (by decide +kernel)⟩

/-- A text with a file storage under two demo storages is compiled again. -/
theorem compile_again_layered :
    ∃ forest topology after, parse Topology.layeredText = .ok forest ∧
      Section.fileStoragesAll forest ≤ 1 ∧
      Catalog.builtIn.compile Topology.layeredText {} = (.ok topology, after) ∧
      topology.blobDirectories = [("blobs", 0o700)] ∧
      ∃ other left, Catalog.builtIn.compile Topology.layeredText (topology.close after).2 =
          (.ok other, left) ∧
        left.files = after.files ∧ other.describe = topology.describe := by
  have counts : (parse Topology.layeredText).toOption.map Section.fileStoragesAll = some 1 := by
    decide +kernel
  obtain ⟨forest, isForest, one⟩ := Option.map_eq_some_iff.mp counts
  have parsed := toOption_eq_some_iff.mp isForest
  have succeeds : (Catalog.builtIn.compile Topology.layeredText {}).1.toOption.map
      Topology.blobDirectories = some [("blobs", 0o700)] := by decide +kernel
  cases compiled : Catalog.builtIn.compile Topology.layeredText {} with
  | mk outcome after =>
    rw [compiled] at succeeds
    obtain ⟨topology, isOk, directories⟩ := Option.map_eq_some_iff.mp succeeds
    cases toOption_eq_some_iff.mp isOk
    obtain ⟨files, succeeds_iff, reached, same⟩ := compile_again parsed (Nat.le_of_eq one) compiled
    rw [directories] at succeeds_iff reached
    have granted : Access.search.isGrantedBy (0o700 : UInt32).toNat = true := by decide +kernel
    obtain ⟨other, isOther⟩ := succeeds_iff.mpr fun directory asked =>
      reached directory asked (List.mem_singleton.mp asked ▸ granted)
    have isAgain : Catalog.builtIn.compile Topology.layeredText (topology.close after).2 =
        (.ok other, (Catalog.builtIn.compile Topology.layeredText (topology.close after).2).2) := by
      rw [← isOther]
    exact ⟨forest, topology, after, parsed, Nat.le_of_eq one, rfl, directories, other, _, isAgain,
      files, same other isOther⟩

end StoreTopology
