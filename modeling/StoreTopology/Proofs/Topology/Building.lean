/-
**What building sections does.**

* `Catalog.build_eq_ok`: a section is built from what its nested sections built and its options;
* `Catalog.grows_build`: with fresh builders, building lets a site grow;
* `Catalog.isNew_of_build`: and a database that a section built is new;
* `Catalog.buildDatabase_eq_ok_iff`, `Catalog.buildDatabases_cons_iff`: top-level sections are built
  and their databases registered in turn;
* `Catalog.FailsAt`: the ways in which one of them fails, with the error of each;
* `Catalog.buildDatabases_eq_error`: what is registered when one of them fails is closed.
-/

import StoreTopology.Proofs.Builder.Growing
import StoreTopology.Proofs.Database.Registering
import StoreTopology.Topology

namespace StoreTopology

open StoreTopology.Action

namespace Catalog

variable {catalog : Catalog} {registry : RegistryId} {block : Section} {forest : List Section}
  {schema : OptionSchema} {options : Options} {site after : Site}

/-! ### Options -/

section Within

variable {related : Site → Site → Prop} [Std.Refl related] [Trans related related related]

/-- Settling options does nothing but log. -/
theorem within_settleOptions (logs : ∀ site level text, related site (site.log level text))
    (schema : OptionSchema) (block : Section) : Within related (settleOptions schema block) := by
  refine .bind (fun site => ?_) fun _ => .ofExcept _
  rw [change_apply]
  generalize (schema.settle block).ignored = lines
  induction lines generalizing site with
  | nil => exact Std.Refl.refl site
  | cons line rest ih =>
    rw [List.foldl_cons]
    exact Trans.trans (logs site .debug _) (ih _)

end Within

theorem settleOptions_eq_ok (settled : settleOptions schema block site = (.ok options, after)) :
    (schema.settle block).result = .ok options := by
  obtain ⟨_, between, _, settled⟩ := bind_eq_ok_iff.mp settled
  have outcome := (Prod.mk.inj settled).1
  cases result : (schema.settle block).result with
  | ok values =>
    rw [result] at outcome
    rw [Except.ok.inj outcome]
  | error problem =>
    rw [result] at outcome
    cases outcome

/-! ### Sections -/

theorem resolve_eq_ok {builder : Builder} (resolved : resolve catalog block = .ok builder) :
    catalog.lookup? block.typeName = some builder := by
  unfold resolve at resolved
  split at resolved
  · next found isFound => rw [isFound, Except.ok.inj resolved]
  · cases resolved

/-- Building a section of a known type. -/
theorem build_of_lookup? {builder : Builder}
    (found : catalog.lookup? block.typeName = some builder) :
    build catalog registry block =
      buildAll catalog registry block.children >>= fun below =>
        settleOptions builder.schema block >>= fun options =>
          Action.log .debug
              (ConfigError.atLine ("Building <" ++ block.typeName ++ ">") block.line) >>=
            fun _ => builder.build registry block.name options below := by
  cases block with
  | mk typeName name lines children line endLine =>
    rw [build]
    unfold resolve
    rw [found]
    rfl

/-- A section is built by the builder of its type, from its options and what its nested sections
built before. -/
theorem build_eq_ok {built : Built} (succeeded : build catalog registry block site =
      (.ok built, after)) :
    ∃ builder below options between before, catalog.lookup? block.typeName = some builder ∧
      buildAll catalog registry block.children site = (.ok below, between) ∧
      Site.Grows between before ∧
      (builder.schema.settle block).result = .ok options ∧
      builder.build registry block.name options below before = (.ok built, after) := by
  cases block with
  | mk typeName name lines children line endLine =>
    rw [build] at succeeded
    obtain ⟨builder, _, resolved, succeeded⟩ := bind_eq_ok_iff.mp succeeded
    obtain ⟨isResolved, rfl⟩ := Prod.mk.inj resolved
    obtain ⟨below, between, builtBelow, succeeded⟩ := bind_eq_ok_iff.mp succeeded
    obtain ⟨options, settledSite, settled, succeeded⟩ := bind_eq_ok_iff.mp succeeded
    obtain ⟨_, before, logged, succeeded⟩ := bind_eq_ok_iff.mp succeeded
    refine ⟨builder, below, options, between, before, resolve_eq_ok isResolved, builtBelow, ?_,
      settleOptions_eq_ok settled, succeeded⟩
    cases logged
    exact ((within_settleOptions Site.admits_grows.log _ _).of_ok settled).trans
      (Site.admits_grows.log _ _ _)

section Within

variable {related : Site → Site → Prop} [Std.Refl related] [Trans related related related]

mutual

/-- A relation that logging and all builders keep is kept by building a section. -/
theorem within_build (logs : ∀ site level text, related site (site.log level text))
    (builds : ∀ typeName builder, catalog.lookup? typeName = some builder →
      ∀ name options children, Within related (builder.build registry name options children)) :
    (block : Section) → Within related (build catalog registry block)
  | ⟨typeName, name, lines, children, line, endLine⟩ => by
    rw [build]
    refine .ofExcept_bind fun builder resolved => .bind (within_buildAll logs builds children)
      fun below => .bind (within_settleOptions logs _ _) fun options =>
        .bind (fun site => logs site _ _) fun _ => ?_
    exact builds _ builder (resolve_eq_ok resolved) name options below

theorem within_buildAll (logs : ∀ site level text, related site (site.log level text))
    (builds : ∀ typeName builder, catalog.lookup? typeName = some builder →
      ∀ name options children, Within related (builder.build registry name options children)) :
    (forest : List Section) → Within related (buildAll catalog registry forest)
  | [] => .pure _
  | block :: rest => by
    rw [buildAll]
    exact .bind (within_build logs builds block) fun _ =>
      .bind (within_buildAll logs builds rest) fun _ => .pure _

end

end Within

/-- With fresh builders, building a section lets a site grow. -/
theorem grows_build (fresh : catalog.IsFresh) (registry : RegistryId) (block : Section) :
    Within Site.Grows (build catalog registry block) :=
  within_build Site.admits_grows.log
    (fun typeName builder found => (fresh typeName builder found).grows registry) block

/-- With fresh builders, a database that a section built is new. -/
theorem isNew_of_build (fresh : catalog.IsFresh) {database : Database}
    (succeeded : build catalog registry block site = (.ok (.database database), after)) :
    database.IsNew registry site after := by
  obtain ⟨builder, below, options, between, before, found, builtBelow, grows, _, built⟩ :=
    build_eq_ok succeeded
  have grewBelow := (within_buildAll Site.admits_grows.log
    (fun typeName builder found => (fresh typeName builder found).grows registry)
      block.children).of_ok builtBelow
  exact ((fresh _ _ found).isNew built).extend (grewBelow.trans grows).next (Nat.le_refl _)

/-! ### Top-level sections -/

/-- A top-level section builds a database and registers it. -/
theorem buildDatabase_eq_ok_iff {database : Database} :
    buildDatabase catalog registry block site = (.ok database, after) ↔
      ∃ between, build catalog registry block site = (.ok (.database database), between) ∧
        registry.register database between = (.ok (), after) := by
  unfold buildDatabase
  rw [bind_eq_ok_iff]
  constructor
  · rintro ⟨built, between, succeeded, continued⟩
    cases built with
    | storage storage => cases continued
    | database other =>
      obtain ⟨outcome, closing, registered, continued⟩ := bind_eq_ok_iff.mp continued
      obtain ⟨isOutcome, rfl⟩ := Prod.mk.inj registered
      cases outcome with
      | ok _ =>
        cases continued
        exact ⟨between, succeeded, Prod.ext (Except.ok.inj isOutcome) rfl⟩
      | error problem =>
        obtain ⟨_, _, _, failed⟩ := bind_eq_ok_iff.mp continued
        cases problem <;> cases failed
  · rintro ⟨between, succeeded, registered⟩
    refine ⟨_, between, succeeded, ?_⟩
    show (Action.outcome (registry.register database) >>= _) between = _
    rw [bind_of_ok (outcome_apply _), registered]
    rfl

theorem buildDatabases_cons_iff {databases : List Database} :
    buildDatabases catalog registry (block :: forest) site = (.ok databases, after) ↔
      ∃ database between others,
        buildDatabase catalog registry block site = (.ok database, between) ∧
          buildDatabases catalog registry forest between = (.ok others, after) ∧
          databases = database :: others := by
  rw [buildDatabases, bind_of_ok (outcome_apply _)]
  cases ran : buildDatabase catalog registry block site with
  | mk outcome between =>
    cases outcome with
    | ok database =>
      show (buildDatabases catalog registry forest >>= _) between = _ ↔ _
      rw [bind_eq_ok_iff]
      constructor
      · rintro ⟨others, _, builtOthers, same⟩
        cases same
        exact ⟨database, between, others, rfl, builtOthers, rfl⟩
      · rintro ⟨_, _, others, same, builtOthers, rfl⟩
        cases same
        exact ⟨others, after, builtOthers, rfl⟩
    | error problem =>
      constructor
      · intro failed
        obtain ⟨_, _, _, failed⟩ := bind_eq_ok_iff.mp failed
        cases failed
      · rintro ⟨_, _, _, failed, _, _⟩
        cases failed

/-! ### Top-level sections that fail -/

/-- A top-level section fails on a site: with the database that was refused, if one was, an error,
the site on which it fails, the one from which on databases are closed, and the one that it leaves
when it has closed what it cannot use. -/
inductive FailsAt (catalog : Catalog) (registry : RegistryId) (block : Section) (site : Site) :
    Option Database → ConfigError → Site → Site → Site → Prop where
  /-- The section cannot be built. Its error is handed on as it is. -/
  | notBuilt {error : ConfigError} {failing : Site}
      (failed : build catalog registry block site = (.error error, failing)) :
      FailsAt catalog registry block site none error failing failing failing
  /-- The section builds a storage, which is closed. -/
  | noDatabase {storage : Storage} {failing : Site}
      (built : build catalog registry block site = (.ok (.storage storage), failing)) :
      FailsAt catalog registry block site none (.build (.notBuilt block.typeName .database)) failing
        (storage.close failing).2 (storage.close failing).2
  /-- The database is refused, because its name is taken, and is closed. -/
  | refused {database : Database} {failing : Site}
      (built : build catalog registry block site = (.ok (.database database), failing))
      (taken : registry.register database failing =
        (.error (.duplicateDatabase database.name), failing)) :
      FailsAt catalog registry block site (some database)
        (.build (.duplicateName database.name)) failing failing (database.close failing).2

theorem buildDatabase_eq_error {error : ConfigError}
    (failed : buildDatabase catalog registry block site = (.error error, after)) :
    ∃ refused failing closing,
      FailsAt catalog registry block site refused error failing closing after := by
  unfold buildDatabase at failed
  rcases bind_eq_error_iff.mp failed with notBuilt | ⟨built, failing, isBuilt, failed⟩
  · exact ⟨none, after, after, .notBuilt notBuilt⟩
  · cases built with
    | storage storage =>
      cases failed
      exact ⟨none, failing, _, .noDatabase isBuilt⟩
    | database database =>
      change (Action.outcome (registry.register database) >>= _) failing = _ at failed
      rw [bind_of_ok (outcome_apply _)] at failed
      cases registered : registry.register database failing with
      | mk outcome between =>
        rw [registered] at failed
        cases outcome with
        | ok _ => cases failed
        | error problem =>
          obtain ⟨_, rfl, rfl⟩ := RegistryId.register_eq_error_iff.mp registered
          cases failed
          exact ⟨some database, _, _, .refused isBuilt registered⟩

/-- Top-level sections fail at one of them, the ones before it being built. What is registered then
is closed. -/
theorem buildDatabases_eq_error {error : ConfigError}
    (failed : buildDatabases catalog registry forest site = (.error error, after)) :
    ∃ earlier block later done between failing, forest = earlier ++ block :: later ∧
      buildDatabases catalog registry earlier site = (.ok done, between) ∧
      buildDatabase catalog registry block between = (.error error, failing) ∧
      after = (registry.closeAll failing).2 := by
  induction forest generalizing site with
  | nil => cases failed
  | cons block rest ih =>
    rw [buildDatabases, bind_of_ok (outcome_apply _)] at failed
    cases ran : buildDatabase catalog registry block site with
    | mk outcome between =>
      rw [ran] at failed
      cases outcome with
      | ok database =>
        change (buildDatabases catalog registry rest >>= _) between = _ at failed
        rcases bind_eq_error_iff.mp failed with failed | ⟨others, last, _, failed⟩
        · obtain ⟨earlier, block', later, done, before, failing, rfl, built, rest⟩ := ih failed
          exact ⟨block :: earlier, block', later, database :: done, before, failing, rfl,
            buildDatabases_cons_iff.mpr ⟨database, between, done, ran, built, rfl⟩, rest⟩
        · cases failed
      | error problem =>
        cases failed
        exact ⟨[], block, rest, [], site, between, rfl, rfl, ran, rfl⟩

end Catalog

end StoreTopology
