/-
**Storages that are built in the same way on two sites.**

* `Site.SameStores`: two sites have the same files and the same records in memory;
* `Action.Agrees`: on such sites, two actions have the same outcomes and leave such sites again, the
  errors of one being taken for others;
* `ConfigError.moved`: the error of sections that stand further down;
* `Catalog.agrees_builtIn`: the built-in builders of storages look at nothing but files and records.
-/

import StoreTopology.Proofs.Builder.Growing

namespace StoreTopology

open StoreTopology.Action

/-! ### Sites with the same stores -/

/-- Two sites have the same files and the same records in memory. -/
structure Site.SameStores (site other : Site) : Prop where
  files : other.files = site.files
  cells : other.cells = site.cells

namespace Site

variable {site other between : Site}

instance : Std.Refl SameStores := ⟨fun _ => ⟨rfl, rfl⟩⟩

theorem SameStores.symm (same : SameStores site other) : SameStores other site :=
  ⟨same.files.symm, same.cells.symm⟩

theorem SameStores.trans (first : SameStores site between) (second : SameStores between other) :
    SameStores site other :=
  ⟨second.files.trans first.files, second.cells.trans first.cells⟩

instance : Trans SameStores SameStores SameStores := ⟨SameStores.trans⟩

theorem sameStores_log (site : Site) (level : LogLevel) (text : String) :
    SameStores site (site.log level text) := ⟨rfl, rfl⟩

end Site

/-! ### Actions that agree -/

/-- On sites with the same stores, the second action has the outcome of the first, but for its
errors, and leaves a site with the same stores. -/
def Action.Agrees {ε α : Type} (f : ε → ε) (action other : Action ε α) : Prop :=
  ∀ site otherSite : Site, site.SameStores otherSite →
    (other otherSite).1 = (action site).1.mapError f ∧
      (action site).2.SameStores (other otherSite).2

namespace Action.Agrees

variable {ε ε' α β : Type} {f : ε → ε} {action other : Action ε α}

theorem pure (value : α) : Agrees f (Pure.pure value : Action ε α) (Pure.pure value) :=
  fun _ _ same => ⟨rfl, same⟩

theorem ofExcept {result otherResult : Except ε α} (errors : otherResult = result.mapError f) :
    Agrees f (Action.ofExcept result) (Action.ofExcept otherResult) :=
  fun _ _ same => ⟨errors, same⟩

theorem throw {error otherError : ε} (errors : otherError = f error) :
    Agrees f (MonadExcept.throw error : Action ε α) (MonadExcept.throw otherError) :=
  fun _ _ same => ⟨congrArg Except.error errors, same⟩

/-- Actions agree that change neither files nor records, if their outcomes do. -/
theorem of_within (keeps : Within Site.SameStores action)
    (otherKeeps : Within Site.SameStores other)
    (errors : ∀ site otherSite, (other otherSite).1 = (action site).1.mapError f) :
    Agrees f action other := fun site otherSite same =>
  ⟨errors site otherSite, (keeps site).symm.trans (same.trans (otherKeeps otherSite))⟩

theorem log (level : LogLevel) (text otherText : String) :
    Agrees f (Action.log level text) (Action.log level otherText) :=
  .of_within (fun site => site.sameStores_log level text)
    (fun site => site.sameStores_log level otherText) fun _ _ => rfl

theorem addCell (records : Records) :
    Agrees f (create fun site => site.addCell records) (create fun site => site.addCell records) := by
  intro site otherSite same
  rw [create_apply, create_apply, Site.addCell, Site.addCell, same.cells]
  exact ⟨rfl, same.files, rfl⟩

theorem onFiles (changes : FileTree → Except FileProblem Unit × FileTree) :
    Agrees id (Action.onFiles changes) (Action.onFiles changes) := by
  intro site otherSite same
  unfold Action.onFiles
  rw [same.files]
  cases changes site.files with
  | mk result files =>
    refine ⟨?_, rfl, same.cells⟩
    cases result with
    | ok value => rfl
    | error problem => rfl

theorem bind {next otherNext : α → Action ε β} (first : Agrees f action other)
    (second : ∀ value, Agrees f (next value) (otherNext value)) :
    Agrees f (action >>= next) (other >>= otherNext) := by
  intro site otherSite same
  obtain ⟨errors, stores⟩ := first site otherSite same
  cases ran : action site with
  | mk outcome between =>
    cases otherRan : other otherSite with
    | mk otherOutcome otherBetween =>
      rw [ran, otherRan] at errors stores
      cases errors
      cases outcome with
      | ok value =>
        rw [bind_of_ok ran, bind_of_ok otherRan]
        exact second value between otherBetween stores
      | error error =>
        rw [bind_of_error ran, bind_of_error otherRan]
        exact ⟨rfl, stores⟩

/-- What is asked of the site may be asked of the other one. -/
theorem site_bind {next otherNext : Site → Action ε β}
    (second : ∀ site otherSite : Site, site.SameStores otherSite →
      Agrees f (next site) (otherNext otherSite)) :
    Agrees f (Action.site >>= next) (Action.site >>= otherNext) :=
  fun site otherSite same => second site otherSite same site otherSite same

theorem mapError {g : ε' → ε} {action other : Action ε' α} (agrees : Agrees id action other)
    (keeps : ∀ error, f (g error) = g error) :
    Agrees f (Action.mapError g action) (Action.mapError g other) := by
  intro site otherSite same
  obtain ⟨errors, stores⟩ := agrees site otherSite same
  unfold Action.mapError
  cases ran : action site with
  | mk outcome between =>
    cases otherRan : other otherSite with
    | mk otherOutcome otherBetween =>
      rw [ran, otherRan] at errors stores
      cases errors
      cases outcome with
      | ok value => exact ⟨rfl, stores⟩
      | error error => exact ⟨congrArg Except.error (keeps error).symm, stores⟩

end Action.Agrees

/-! ### New storages -/

section Storages

variable {ε : Type} {f : ε → ε}

theorem Storage.agrees_newMapping (name : String) (records : Records) :
    Agrees f (newMapping name records : Action ε Storage) (newMapping name records) :=
  .bind (.addCell records) fun _ => .pure _

theorem Storage.agrees_newDemo (name : Option String) (base : Storage) :
    Agrees f (newDemo name base : Action ε Storage) (newDemo name base) :=
  .bind (.addCell .empty) fun _ => .pure _

theorem Storage.agrees_loadFile (path : String) : Agrees id (loadFile path) (loadFile path) := by
  refine .bind (.log _ _ _) fun _ => .site_bind fun site otherSite same => .ofExcept ?_
  rw [same.files]
  cases readRecords path site.files with
  | ok records => rfl
  | error error => rfl

theorem Storage.agrees_createFile (path : String) : Agrees id (createFile path) (createFile path) :=
  .bind (.log _ _ _) fun _ => .bind (.onFiles _) fun _ => .pure _

theorem Storage.agrees_openFile (settings : FileSettings) :
    Agrees id (openFile settings) (openFile settings) := by
  have adds : ∀ records, Agrees id (do
      let cell ← create fun site => site.addCell records
      return .file settings cell : Action StoreError Storage) (do
      let cell ← create fun site => site.addCell records
      return .file settings cell) := fun records => .bind (.addCell records) fun _ => .pure _
  refine .site_bind fun site otherSite same => ?_
  rw [same.files]
  dsimp only
  split
  · split
    · exact .bind (agrees_loadFile _) adds
    · exact .bind (.throw rfl) adds
  · split
    · exact .bind (agrees_createFile _) adds
    · exact .bind (agrees_loadFile _) adds

theorem Builder.agrees_ensureDirectory (path : String) (mode : UInt32) :
    Agrees id (ensureDirectory path mode) (ensureDirectory path mode) :=
  .bind (.log _ _ _) fun _ => .bind (.onFiles _) fun _ => .onFiles _

end Storages

/-! ### Errors further down -/

/-- The problem of a section so many lines further down. -/
def OptionProblem.moved (count : Nat) : OptionProblem → OptionProblem
  | unknownKey key typeName line => unknownKey key typeName (line + count)
  | missingOption key typeName line => missingOption key typeName (line + count)
  | problem => problem

/-- The problem of a line so many lines further down. -/
def ParseProblem.moved (count : Nat) : ParseProblem → ParseProblem
  | mismatchedEnd typeName opened openLine => mismatchedEnd typeName opened (openLine + count)
  | problem => problem

/-- The error of sections so many lines further down. -/
def ConfigError.moved (count : Nat) : ConfigError → ConfigError
  | malformed error => malformed ⟨error.problem.moved count, error.line + count⟩
  | misplaced problem line => misplaced problem (line + count)
  | option problem => option (problem.moved count)
  | error => error

/-! ### Built-in builders -/

namespace Builder

variable {registry otherRegistry : RegistryId} {name : Option String} {options : Options}
  {children : List Built} {count : Nat}

theorem agrees_mapping : Agrees (ConfigError.moved count)
    (mapping.build registry name options children)
    (mapping.build otherRegistry name options children) :=
  .bind (Storage.agrees_newMapping _ _) fun _ => .pure _

theorem mapError_fileSettings (options : Options) :
    (fileSettings options).mapError ConfigError.option =
      ((fileSettings options).mapError ConfigError.option).mapError (ConfigError.moved count) := by
  unfold fileSettings Options.requirePath
  cases options.path? "path" with
  | some path => rfl
  | none => rfl

theorem agrees_file : Agrees (ConfigError.moved count)
    (file.build registry name options children)
    (file.build otherRegistry name options children) := by
  refine .bind (.ofExcept (mapError_fileSettings options)) fun settings => ?_
  have opens : Agrees (ConfigError.moved count) (do
      let storage ← (Storage.openFile settings).mapError ConfigError.storage
      return Built.storage storage : Action ConfigError Built) (do
      let storage ← (Storage.openFile settings).mapError ConfigError.storage
      return Built.storage storage) :=
    .bind (.mapError (Storage.agrees_openFile settings) fun _ => rfl) fun _ => .pure _
  split
  · exact .bind (.mapError (agrees_ensureDirectory _ _) fun _ => rfl) fun _ => opens
  · exact opens

theorem mapError_onlyStorage (children : List Built) :
    onlyStorage children = (onlyStorage children).mapError (ConfigError.moved count) := by
  unfold onlyStorage
  split
  · rfl
  · rfl

theorem agrees_demo : Agrees (ConfigError.moved count)
    (demo.build registry name options children)
    (demo.build otherRegistry name options children) :=
  .bind (.ofExcept (mapError_onlyStorage children)) fun _ =>
    .bind (Storage.agrees_newDemo _ _) fun _ => .pure _

end Builder

/-- The built-in builders of storages do the same on sites with the same stores. -/
theorem Catalog.agrees_builtIn {typeName : String} {builder : Builder}
    (found : builtIn.lookup? typeName = some builder) (kind : builder.kind = .storage)
    {registry otherRegistry : RegistryId} {name : Option String} {options : Options}
    {children : List Built} {count : Nat} : Agrees (ConfigError.moved count)
      (builder.build registry name options children)
      (builder.build otherRegistry name options children) := by
  rcases mem_builtIn found with rfl | rfl | rfl | rfl
  · exact Builder.agrees_mapping
  · exact Builder.agrees_file
  · exact Builder.agrees_demo
  · cases kind

end StoreTopology
