/-
**A compilation checks the whole text first, and builds after it.**

* `Catalog.compile_eq`, `Catalog.compileStorage_eq`: both compilations as a check, which is no
  action, and what is built after it;
* `ConfigError.IsLate`: the errors of a build, which have no line;
* `Catalog.failsLate_build`: building a valid section with the built-in builders fails with such
  errors only;
* `compile_checksFirst`: an error with a line is raised if and only if the check refuses the text,
  and then nothing has happened, whatever the builders do.
-/

import StoreTopology.Proofs.Topology.Building
import StoreTopology.Proofs.Topology.Validation

namespace StoreTopology

open StoreTopology.Action

/-- The error tells of a value or of a storage. -/
def ConfigError.IsLate (error : ConfigError) : Prop :=
  error.isValue = true ∨ ∃ cause, error = .storage cause

theorem ConfigError.IsLate.isSyntactic {error : ConfigError} (late : error.IsLate) :
    error.isSyntactic = false := by
  rcases late with isValue | ⟨cause, rfl⟩
  · cases error with
    | option problem => rfl
    | build problem => rfl
    | malformed _ | misplaced _ _ | storage _ | unreadable _ _ => cases isValue
  · rfl

/-! ### Late errors of the built-in builders -/

namespace Builder

variable {registry : RegistryId} {name : Option String} {options : Options} {children : List Built}

theorem isLate_option (problem : OptionProblem) : (ConfigError.option problem).IsLate := .inl rfl

theorem isLate_build (problem : BuildProblem) : (ConfigError.build problem).IsLate := .inl rfl

theorem isLate_storage (cause : StoreError) : (ConfigError.storage cause).IsLate :=
  .inr ⟨cause, rfl⟩

theorem isLate_of_mapError {α : Type} {result : Except OptionProblem α} {error : ConfigError}
    (failed : result.mapError .option = .error error) : error.IsLate := by
  cases result with
  | ok value => cases failed
  | error problem =>
    cases failed
    exact isLate_option problem

theorem isLate_of_onlyStorage {error : ConfigError} (failed : onlyStorage children = .error error) :
    error.IsLate := by
  unfold onlyStorage at failed
  split at failed
  · cases failed
  · cases failed
    exact isLate_build _

theorem failsLate_mapping :
    FailsWith ConfigError.IsLate (mapping.build registry name options children) :=
  .bind (.bind (.create _) fun _ => .pure _) fun _ => .pure _

theorem failsLate_file :
    FailsWith ConfigError.IsLate (file.build registry name options children) := by
  refine .bind (.ofExcept fun _ failed => isLate_of_mapError failed) fun settings => ?_
  have opens : FailsWith ConfigError.IsLate (do
      let storage ← (Storage.openFile settings).mapError ConfigError.storage
      return Built.storage storage : Action ConfigError Built) :=
    .bind (.mapError isLate_storage) fun _ => .pure _
  split
  · exact .bind (.mapError isLate_storage) fun _ => opens
  · exact opens

theorem failsLate_demo :
    FailsWith ConfigError.IsLate (demo.build registry name options children) :=
  .bind (.ofExcept fun _ failed => isLate_of_onlyStorage failed) fun _ =>
    .bind (.bind (.create _) fun _ => .pure _) fun _ => .pure _

theorem failsLate_database :
    FailsWith ConfigError.IsLate (database.build registry name options children) :=
  .bind (.ofExcept fun _ failed => isLate_of_onlyStorage failed) fun _ =>
    .bind (.ofExcept fun _ failed => isLate_of_mapError failed) fun _ =>
      .bind (.change _) fun _ => .bind (.create _) fun _ => .pure _

end Builder

namespace Catalog

variable {catalog : Catalog} {registry : RegistryId} {block : Section} {forest : List Section}
  {expected : SectionKind} {text : String}

theorem failsLate_builtIn {typeName : String} {builder : Builder}
    (found : builtIn.lookup? typeName = some builder) (registry : RegistryId)
    (name : Option String) (options : Options) (children : List Built) :
    FailsWith ConfigError.IsLate (builder.build registry name options children) := by
  rcases mem_builtIn found with rfl | rfl | rfl | rfl
  · exact Builder.failsLate_mapping
  · exact Builder.failsLate_file
  · exact Builder.failsLate_demo
  · exact Builder.failsLate_database

/-! ### Late errors of a build -/

theorem failsLate_settleOptions (schema : OptionSchema) (block : Section) :
    FailsWith ConfigError.IsLate (settleOptions schema block) :=
  .bind (.change _) fun _ => .ofExcept fun _ failed => Builder.isLate_of_mapError failed

theorem failsWith_buildAll {passes : ConfigError → Prop}
    (each : ∀ block ∈ forest, FailsWith passes (build catalog registry block)) :
    FailsWith passes (buildAll catalog registry forest) := by
  induction forest with
  | nil =>
    rw [buildAll]
    exact .pure _
  | cons block rest ih =>
    obtain ⟨first, others⟩ := List.forall_mem_cons.mp each
    rw [buildAll]
    exact .bind first fun _ => .bind (ih others) fun _ => .pure _

/-- The types of a valid section are known at every depth, so that its build asks for no type in
vain. -/
theorem failsLate_build (valid : validate builtIn expected block = .ok ()) :
    FailsWith ConfigError.IsLate (build builtIn registry block) := by
  induction block using Section.induction generalizing expected with
  | step block ih =>
    obtain ⟨builder, found, _⟩ := validate_eq_ok_iff.mp valid
    rw [build_of_lookup? found]
    refine .bind (failsWith_buildAll fun child nested => ?_) fun below =>
      .bind (failsLate_settleOptions _ _) fun options => .bind (.change _) fun _ =>
        failsLate_builtIn found registry _ options below
    obtain ⟨kind, validChild⟩ := exists_validate_of_mem valid nested
    exact ih child nested validChild

theorem failsLate_buildDatabase (valid : validate builtIn expected block = .ok ()) :
    FailsWith ConfigError.IsLate (buildDatabase builtIn registry block) := by
  refine .bind (failsLate_build valid) fun built => ?_
  cases built with
  | storage storage => exact .bind (.outcome _) fun _ => .throw (Builder.isLate_build _)
  | database database =>
    refine .bind (.outcome _) fun registered => ?_
    cases registered with
    | ok _ => exact .pure _
    | error problem =>
      refine .bind (.outcome _) fun _ => ?_
      split
      · exact .throw (Builder.isLate_build _)
      · exact .throw (Builder.isLate_storage _)

theorem failsLate_buildDatabases (valid : validateAll builtIn expected forest = .ok ()) :
    FailsWith ConfigError.IsLate (buildDatabases builtIn registry forest) := by
  intro site error after failed
  obtain ⟨earlier, block, later, _, between, failing, rfl, _, failedAt, _⟩ :=
    buildDatabases_eq_error failed
  have present : block ∈ earlier ++ block :: later := List.mem_append_right _ List.mem_cons_self
  exact failsLate_buildDatabase (validateAll_eq_ok_iff.mp valid block present) between error failing
    failedAt

/-! ### Checking and building apart -/

/-- What a compilation of databases does before it builds. -/
def check (catalog : Catalog) (text : String) : Except ConfigError (List Section) := do
  let sections ← readSections text
  validateAll catalog .database sections
  return sections

/-- What a compilation of databases does with sections that have been checked. -/
def assemble (catalog : Catalog) (sections : List Section) : Action ConfigError Topology := do
  let registry ← Action.create Site.addRegistry
  let databases ← buildDatabases catalog registry sections
  return ⟨databases, registry⟩

theorem compile_eq (catalog : Catalog) (text : String) :
    catalog.compile text = ofExcept (catalog.check text) >>= catalog.assemble := by
  unfold check
  simp only [ofExcept_bind_bind]
  rfl

/-- What a compilation of a storage does before it builds. -/
def checkStorage (catalog : Catalog) (text : String) : Except ConfigError Section := do
  let sections ← readSections text
  let block ← onlySection sections
  validate catalog .storage block
  return block

/-- What a compilation of a storage does with a section that has been checked. -/
def assembleStorage (catalog : Catalog) (block : Section) : Action ConfigError Storage := do
  let registry ← Action.create Site.addRegistry
  match ← build catalog registry block with
  | .storage storage => return storage
  | .database database =>
    let _ ← (Action.outcome database.close : Action ConfigError _)
    throw (.build (.notBuilt block.typeName .storage))

theorem compileStorage_eq (catalog : Catalog) (text : String) :
    catalog.compileStorage text =
      ofExcept (catalog.checkStorage text) >>= catalog.assembleStorage := by
  unfold checkStorage
  simp only [ofExcept_bind_bind]
  rfl

/-- The sections of a text that has been checked are valid. -/
theorem valid_of_check (checked : catalog.check text = .ok forest) :
    parse text = .ok forest ∧ validateAll catalog .database forest = .ok () := by
  obtain ⟨sections, read, checked⟩ := bind_eq_ok.mp checked
  obtain ⟨_, valid, isForest⟩ := bind_eq_ok.mp checked
  cases isForest
  refine ⟨?_, valid⟩
  unfold readSections at read
  cases parsed : parse text with
  | ok other =>
    rw [parsed] at read
    rw [Except.ok.inj read]
  | error problem =>
    rw [parsed] at read
    cases read

theorem valid_of_checkStorage (checked : catalog.checkStorage text = .ok block) :
    validate catalog .storage block = .ok () := by
  obtain ⟨_, _, checked⟩ := bind_eq_ok.mp checked
  obtain ⟨_, _, checked⟩ := bind_eq_ok.mp checked
  obtain ⟨_, valid, isBlock⟩ := bind_eq_ok.mp checked
  cases isBlock
  exact valid

/-- Databases of sections that have been checked fail late. -/
theorem failsLate_assemble (checked : builtIn.check text = .ok forest) :
    FailsWith ConfigError.IsLate (builtIn.assemble forest) :=
  .bind (.create _) fun _ =>
    .bind (failsLate_buildDatabases (valid_of_check checked).2) fun _ => .pure _

theorem failsLate_assembleStorage (checked : builtIn.checkStorage text = .ok block) :
    FailsWith ConfigError.IsLate (builtIn.assembleStorage block) := by
  refine .bind (.create _) fun _ =>
    .bind (failsLate_build (valid_of_checkStorage checked)) fun built => ?_
  cases built with
  | storage storage => exact .pure _
  | database database => exact .bind (.outcome _) fun _ => .throw (Builder.isLate_build _)

/-! ### Texts that are refused -/

/-- The text of databases is malformed, or one of its sections is no valid database section. -/
def Refuses (catalog : Catalog) (text : String) : Prop :=
  (∃ error, parse text = .error error) ∨
    ∃ forest, parse text = .ok forest ∧
      ∃ block ∈ forest, ∃ error, validate catalog .database block = .error error

/-- The text of a storage is malformed, or has several sections, or its only one is no valid storage
section. -/
def RefusesStorage (catalog : Catalog) (text : String) : Prop :=
  (∃ error, parse text = .error error) ∨
    ∃ forest, parse text = .ok forest ∧
      (1 < forest.length ∨
        ∃ block, forest = [block] ∧ ∃ error, validate catalog .storage block = .error error)

theorem isSyntactic_of_readSections {error : ConfigError}
    (failed : readSections text = .error error) : error.isSyntactic = true := by
  unfold readSections at failed
  cases parsed : parse text with
  | ok sections =>
    rw [parsed] at failed
    cases failed
  | error problem =>
    rw [parsed] at failed
    cases failed
    rfl

theorem refuses_of_parse (parsed : parse text = .ok forest) : catalog.Refuses text ↔
    ∃ block ∈ forest, ∃ error, validate catalog .database block = .error error := by
  unfold Refuses
  rw [parsed]
  simp

theorem refusesStorage_of_parse (parsed : parse text = .ok forest) :
    catalog.RefusesStorage text ↔ 1 < forest.length ∨
      ∃ block, forest = [block] ∧ ∃ error, validate catalog .storage block = .error error := by
  unfold RefusesStorage
  rw [parsed]
  simp

/-- The check of databases fails if it refuses the text, and its errors have a line. -/
theorem check_error_iff : (∃ error, catalog.check text = .error error ∧
      error.isSyntactic = true) ↔ catalog.Refuses text := by
  unfold check
  cases parsed : parse text with
  | error problem =>
    refine iff_of_true ⟨.malformed problem, ?_, rfl⟩ (.inl ⟨problem, parsed⟩)
    unfold readSections
    rw [parsed]
    rfl
  | ok forest =>
    rw [refuses_of_parse parsed, ← exists_validateAll_error_iff, readSections_of_parse parsed]
    show (∃ error, (validateAll catalog .database forest >>= fun _ => pure forest) = .error error ∧
      _) ↔ _
    cases checked : validateAll catalog .database forest with
    | ok _ =>
      refine iff_of_false ?_ ?_
      · rintro ⟨error, failed, _⟩
        cases failed
      · rintro ⟨error, failed⟩
        cases failed
    | error error =>
      exact iff_of_true ⟨error, rfl, isSyntactic_of_validateAll checked⟩ ⟨error, rfl⟩

/-- The check of a storage fails if it refuses the text, unless there is no section at all. -/
theorem checkStorage_error_iff : (∃ error, catalog.checkStorage text = .error error ∧
      error.isSyntactic = true) ↔ catalog.RefusesStorage text := by
  unfold checkStorage
  cases parsed : parse text with
  | error problem =>
    refine iff_of_true ⟨.malformed problem, ?_, rfl⟩ (.inl ⟨problem, parsed⟩)
    unfold readSections
    rw [parsed]
    rfl
  | ok forest =>
    rw [refusesStorage_of_parse parsed, readSections_of_parse parsed]
    match forest with
    | [] =>
      refine iff_of_false ?_ ?_
      · rintro ⟨error, failed, hasLine⟩
        cases failed
        cases hasLine
      · rintro (several | ⟨block, one, _⟩)
        · cases several
        · cases one
    | [block] =>
      show (∃ error, (validate catalog .storage block >>= fun _ => pure block) = .error error ∧
        _) ↔ _
      cases checked : validate catalog .storage block with
      | ok _ =>
        refine iff_of_false ?_ ?_
        · rintro ⟨error, failed, _⟩
          cases failed
        · rintro (several | ⟨other, one, error, failed⟩)
          · exact Nat.lt_irrefl 1 several
          · cases one
            rw [checked] at failed
            cases failed
      | error error =>
        exact iff_of_true ⟨error, rfl, isSyntactic_of_validate checked⟩
          (.inr ⟨block, rfl, error, checked⟩)
    | _ :: extra :: rest =>
      refine iff_of_true ⟨.misplaced .extraSection extra.line, rfl, rfl⟩ (.inl ?_)
      exact Nat.succ_lt_succ (Nat.succ_pos _)

theorem isSyntactic_of_check {error : ConfigError} (failed : catalog.check text = .error error) :
    error.isSyntactic = true := by
  rcases bind_eq_error.mp failed with failed | ⟨sections, _, failed⟩
  · exact isSyntactic_of_readSections failed
  · rcases bind_eq_error.mp failed with failed | ⟨_, _, failed⟩
    · exact isSyntactic_of_validateAll failed
    · cases failed

/-- The only error of a check without a line is that there is no section. -/
theorem isSyntactic_or_none_of_checkStorage {error : ConfigError}
    (failed : catalog.checkStorage text = .error error) :
    error.isSyntactic = true ∨ error = .build .noStorageSection := by
  rcases bind_eq_error.mp failed with failed | ⟨sections, _, failed⟩
  · exact .inl (isSyntactic_of_readSections failed)
  · rcases bind_eq_error.mp failed with failed | ⟨block, _, failed⟩
    · unfold onlySection at failed
      split at failed
      · exact .inr (Except.error.inj failed).symm
      · cases failed
      · cases failed
        exact .inl rfl
    · rcases bind_eq_error.mp failed with failed | ⟨_, _, failed⟩
      · exact .inl (isSyntactic_of_validate failed)
      · cases failed

theorem isSyntactic_or_isLate_of_checkStorage {error : ConfigError}
    (failed : catalog.checkStorage text = .error error) :
    error.isSyntactic = true ∨ error.IsLate := by
  rcases isSyntactic_or_none_of_checkStorage failed with hasLine | rfl
  · exact .inl hasLine
  · exact .inr (Builder.isLate_build _)

theorem SameShapes.check_eq {other : Catalog} (same : SameShapes catalog other) :
    catalog.check text = other.check text := by
  unfold check
  simp only [same.validateAll_eq]

theorem SameShapes.checkStorage_eq {other : Catalog} (same : SameShapes catalog other) :
    catalog.checkStorage text = other.checkStorage text := by
  unfold checkStorage
  simp only [same.validate_eq]

/-! ### Two phases -/

/-- A compilation checks its text first. -/
structure ChecksFirst {α : Type} (run : Catalog → Action ConfigError α) (refuses : Prop) :
    Prop where
  /-- An error with a line is raised if and only if the text is refused. -/
  isSyntactic_iff : ∀ site, (∃ error after, run builtIn site = (.error error, after) ∧
    error.isSyntactic = true) ↔ refuses
  /-- Then nothing has happened on the site, and the same error is raised on every other one, with
  all builders of the same shapes, whatever they do when they are called. -/
  unchanged : ∀ site error after, run builtIn site = (.error error, after) →
    error.isSyntactic = true → after = site ∧
      ∀ catalog : Catalog, catalog.SameShapes builtIn → ∀ other,
        run catalog other = (.error error, other)
  /-- The errors of a text that is not refused tell of values or storages. -/
  late : ¬ refuses → ∀ site error after, run builtIn site = (.error error, after) → error.IsLate

/-- An action that starts with a check, and fails late after it. -/
theorem ChecksFirst.of_check {α β : Type} {refuses : Prop} {run : Catalog → Action ConfigError β}
    {checked : Catalog → Except ConfigError α} {next : Catalog → α → Action ConfigError β}
    (runs : ∀ catalog, run catalog = ofExcept (checked catalog) >>= next catalog)
    (refused_iff : (∃ error, checked builtIn = .error error ∧ error.isSyntactic = true) ↔ refuses)
    (either : ∀ error, checked builtIn = .error error → error.isSyntactic = true ∨ error.IsLate)
    (same : ∀ catalog : Catalog, catalog.SameShapes builtIn → checked catalog = checked builtIn)
    (late : ∀ value, checked builtIn = .ok value →
      FailsWith ConfigError.IsLate (next builtIn value)) :
    ChecksFirst run refuses := by
  have failsAtCheck : ∀ {error}, checked builtIn = .error error →
      ∀ catalog : Catalog, catalog.SameShapes builtIn → ∀ site,
        run catalog site = (.error error, site) := by
    intro error failed catalog shapes site
    rw [runs, same catalog shapes, failed]
    rfl
  have atCheck : ∀ {site error after}, run builtIn site = (.error error, after) →
      (checked builtIn = .error error ∧ after = site) ∨
        error.IsLate ∧ ∃ value, checked builtIn = .ok value := by
    intro site error after failed
    rw [runs] at failed
    cases outcome : checked builtIn with
    | error problem =>
      rw [outcome] at failed
      cases failed
      exact .inl ⟨rfl, rfl⟩
    | ok value =>
      rw [outcome] at failed
      exact .inr ⟨late value outcome site error after failed, value, rfl⟩
  refine ⟨fun site => ?_, fun site error after failed hasLine => ?_,
    fun accepted site error after failed => ?_⟩
  · rw [← refused_iff]
    constructor
    · rintro ⟨error, after, failed, hasLine⟩
      rcases atCheck failed with ⟨refused, _⟩ | ⟨isLate, _⟩
      · exact ⟨error, refused, hasLine⟩
      · rw [isLate.isSyntactic] at hasLine
        cases hasLine
    · rintro ⟨error, refused, hasLine⟩
      exact ⟨error, site, failsAtCheck refused builtIn (fun _ => rfl) site, hasLine⟩
  · rcases atCheck failed with ⟨refused, unchanged⟩ | ⟨isLate, _⟩
    · exact ⟨unchanged, failsAtCheck refused⟩
    · rw [isLate.isSyntactic] at hasLine
      cases hasLine
  · rcases atCheck failed with ⟨refused, _⟩ | ⟨isLate, _⟩
    · rcases either error refused with hasLine | isLate
      · exact absurd (refused_iff.mp ⟨error, refused, hasLine⟩) accepted
      · exact isLate
    · exact isLate

/-- **Both compilations with the built-in builders check the whole text before they build.** -/
theorem compile_checksFirst (text : String) :
    ChecksFirst (fun catalog => catalog.compile text) (builtIn.Refuses text) ∧
      ChecksFirst (fun catalog => catalog.compileStorage text) (builtIn.RefusesStorage text) := by
  constructor
  · exact .of_check (fun catalog => compile_eq catalog text) check_error_iff
      (fun error failed => .inl (isSyntactic_of_check failed))
      (fun catalog same => same.check_eq) fun forest valid => failsLate_assemble valid
  · exact .of_check (fun catalog => compileStorage_eq catalog text) checkStorage_error_iff
      (fun error failed => isSyntactic_or_isLate_of_checkStorage failed)
      (fun catalog same => same.checkStorage_eq) fun block valid => failsLate_assembleStorage valid

end Catalog

end StoreTopology
