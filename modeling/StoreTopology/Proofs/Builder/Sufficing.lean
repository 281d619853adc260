/-
**What the built-in builders are given is enough for them.**

Builders check again what their sections have been checked for, and what their schemas have settled.
If nested sections built what the shapes ask for, and the options are settled, none of these checks
fails.

* `ConfigError.IsInternal`: the error tells of such a check;
* `ChildShape.Fits`: what nested sections built is what a shape asks for;
* `Catalog.reads_default`: the defaults of the built-in schemas are of the kinds that they declare;
* `Catalog.isFilePath_of_required`: the only option that they require is the path of a file storage;
* `Catalog.failsOutside_builtIn`: a built-in builder fails with other errors only.
-/

import StoreTopology.Proofs.Builder.Growing
import StoreTopology.Proofs.Option.Meaning

namespace StoreTopology

open StoreTopology.Action

/-- The error tells of a check that is superfluous: of what sections built or are built from, or
that an option is missing. Only the path of a file storage may be missing. -/
inductive ConfigError.IsInternal : ConfigError → Prop
  | notOneStorage : IsInternal (.build .notOneStorage)
  | notBuilt (typeName : String) (expected : SectionKind) :
      IsInternal (.build (.notBuilt typeName expected))
  | ofBuilder (text : String) : IsInternal (.build (.other text))
  | missingPath (key : String) : IsInternal (.option (.missingPath key))
  | missingOption {key typeName : String} (line : Nat)
      (other : ¬ (Text.lowercased typeName = "filestorage" ∧ key = "path")) :
      IsInternal (.option (.missingOption key typeName line))

/-- The error tells of something outside, and of no superfluous check. -/
def ConfigError.IsOutside (error : ConfigError) : Prop := ¬ error.IsInternal

/-! ### Shapes -/

namespace ChildShape

/-- The kinds of the nested sections that a shape asks for. -/
def kinds : ChildShape → List SectionKind
  | .none => []
  | .one kind => [kind]

/-- What nested sections built is what a shape asks for. -/
def Fits (shape : ChildShape) (children : List Built) : Prop :=
  children.map Built.kind = shape.kinds

theorem fits_storage_iff {children : List Built} :
    (ChildShape.one .storage).Fits children ↔ ∃ storage, children = [.storage storage] := by
  constructor
  · intro fits
    obtain ⟨built, rfl, kind⟩ := List.map_eq_singleton_iff.mp fits
    cases built with
    | storage storage => exact ⟨storage, rfl⟩
    | database database => cases kind
  · rintro ⟨storage, rfl⟩
    rfl

end ChildShape

/-! ### Built-in schemas -/

namespace Catalog

variable {typeName : String} {builder : Builder} {spec : OptionSpec} {block : Section}

/-- The defaults of the built-in schemas are of the declared kinds. -/
theorem reads_default (found : builtIn.lookup? typeName = some builder)
    (declared : spec ∈ builder.schema.specs) {raw : String} (isDefault : spec.default = some raw) :
    ∃ value, spec.coercion.coerce spec.key raw = .ok value := by
  have reads : ∀ spec ∈ builder.schema.specs,
      (spec.default.all fun raw => (spec.coercion.read? raw).isSome) = true := by
    rcases mem_builtIn found with rfl | rfl | rfl | rfl
    all_goals decide +kernel
  have read := reads spec declared
  rw [isDefault, Option.all_some] at read
  exact Coercion.exists_coerce_iff.mpr (Option.isSome_iff_ne_none.mp read)

/-- The only option that the built-in schemas require is the path of a file storage. -/
theorem isFilePath_of_required (found : builtIn.lookup? typeName = some builder)
    (declared : spec ∈ builder.schema.specs) (isRequired : spec.required = true) :
    Text.lowercased typeName = "filestorage" ∧ spec.key = "path" := by
  have none : ∀ {schema : OptionSchema}, (∀ spec ∈ schema.specs, spec.required = false) →
      spec ∈ schema.specs → False := by
    intro schema optional declared
    rw [optional spec declared] at isRequired
    cases isRequired
  have file : ∀ spec ∈ Builder.fileSchema.specs, spec.required = true → spec.key = "path" := by
    decide +kernel
  rcases builtIn_cases found with ⟨_, rfl⟩ | ⟨isFile, rfl⟩ | ⟨_, rfl⟩ | ⟨_, rfl⟩
  · exact (none (by decide +kernel) declared).elim
  · exact ⟨isFile, file spec declared isRequired⟩
  · exact (none (by decide +kernel) declared).elim
  · exact (none (by decide +kernel) declared).elim

/-- A section that its schema refuses misses no other option. -/
theorem isOutside_of_coerce (found : builtIn.lookup? block.typeName = some builder)
    {problem : OptionProblem} (refused : builder.schema.coerce block = .error problem) :
    (ConfigError.option problem).IsOutside := by
  rintro internal
  rcases OptionSchema.coerce_eq_error_iff.mp refused with isFirst | ⟨_, isFirst⟩
  · obtain ⟨_, _, _, _, fault⟩ := isFirst.exists_fault
    cases fault with
    | unknownKey _ _ => cases internal
    | notOfKind _ _ _ _ => cases internal
  · obtain ⟨earlier, spec, later, split, fault⟩ := isFirst.exists_fault
    cases fault with
    | notOfKind _ _ _ => cases internal
    | missingOption _ _ isRequired =>
      have declared : spec ∈ builder.schema.specs := split ▸ by simp
      cases internal with
      | missingOption _ other => exact other (isFilePath_of_required found declared isRequired)

end Catalog

/-! ### Built-in builders -/

namespace Builder

variable {registry : RegistryId} {name : Option String} {options : Options} {children : List Built}
  {block : Section}

/-- A file storage has a path when its options have been settled. -/
theorem exists_path_of_coerce (coerced : fileSchema.coerce block = .ok options) :
    ∃ path, options.path? "path" = some path := by
  have declared : fileSchema.spec? "path" = some ⟨"path", .path, none, true⟩ := by decide +kernel
  have accepts := OptionSchema.exists_coerce_iff.mp ⟨options, coerced⟩
  have value := OptionSchema.get?_of_settle declared coerced
  cases given : block.value? "path" with
  | none =>
    have leftOut := accepts.leftOut _ (OptionSchema.spec?_eq_some_iff.mp declared).1 given rfl
    cases leftOut
  | some raw =>
    rw [given] at value
    refine ⟨raw, ?_⟩
    unfold Options.path?
    rw [value]
    rfl

theorem isOutside_storage (cause : StoreError) : (ConfigError.storage cause).IsOutside := nofun

theorem failsOutside_mapping :
    FailsWith ConfigError.IsOutside (mapping.build registry name options children) :=
  .bind (.bind (.create _) fun _ => .pure _) fun _ => .pure _

theorem failsOutside_file (coerced : fileSchema.coerce block = .ok options) :
    FailsWith ConfigError.IsOutside (file.build registry name options children) := by
  obtain ⟨path, isPath⟩ := exists_path_of_coerce coerced
  refine .bind (.ofExcept fun error failed => ?_) fun settings => ?_
  · unfold fileSettings Options.requirePath at failed
    rw [isPath] at failed
    cases failed
  · have opens : FailsWith ConfigError.IsOutside (do
        let storage ← (Storage.openFile settings).mapError ConfigError.storage
        return Built.storage storage : Action ConfigError Built) :=
      .bind (.mapError isOutside_storage) fun _ => .pure _
    split
    · exact .bind (.mapError isOutside_storage) fun _ => opens
    · exact opens

/-- With one storage, the only storage is this one. -/
theorem failsOutside_onlyStorage (fits : (ChildShape.one .storage).Fits children) :
    FailsWith ConfigError.IsOutside (Action.ofExcept (onlyStorage children)) := by
  obtain ⟨storage, rfl⟩ := ChildShape.fits_storage_iff.mp fits
  exact .ofExcept nofun

theorem failsOutside_demo (fits : demo.children.Fits children) :
    FailsWith ConfigError.IsOutside (demo.build registry name options children) :=
  .bind (failsOutside_onlyStorage fits) fun _ =>
    .bind (.bind (.create _) fun _ => .pure _) fun _ => .pure _

theorem count_eq_error {key : String} {problem : OptionProblem}
    (failed : options.count key = .error problem) :
    ∃ value, problem = .negativeCount key value := by
  unfold Options.count at failed
  split at failed
  · cases failed
  · next value _ =>
    split at failed
    · exact ⟨value, (Except.error.inj failed).symm⟩
    · cases failed

/-- The settings of a database can only fail for a negative count. -/
theorem databaseSettings_eq_error {problem : OptionProblem}
    (failed : databaseSettings name options = .error problem) :
    ∃ key value, problem = .negativeCount key value := by
  unfold databaseSettings at failed
  rcases bind_eq_error.mp failed with failed | ⟨_, _, failed⟩
  · exact ⟨_, count_eq_error failed⟩
  · rcases bind_eq_error.mp failed with failed | ⟨_, _, failed⟩
    · exact ⟨_, count_eq_error failed⟩
    · cases failed

theorem failsOutside_database (fits : database.children.Fits children) :
    FailsWith ConfigError.IsOutside (database.build registry name options children) := by
  refine .bind (failsOutside_onlyStorage fits) fun _ => .bind (.ofExcept fun error failed => ?_)
    fun _ => .bind (.change _) fun _ => .bind (.create _) fun _ => .pure _
  cases settles : databaseSettings name options with
  | ok settings =>
    rw [settles] at failed
    cases failed
  | error problem =>
    obtain ⟨key, value, rfl⟩ := databaseSettings_eq_error settles
    rw [settles] at failed
    cases failed
    nofun

end Builder

/-- With fitting children and settled options, the built-in builders fail with errors of other sorts
only. -/
theorem Catalog.failsOutside_builtIn {typeName : String} {builder : Builder}
    (found : builtIn.lookup? typeName = some builder) {block : Section} {options : Options}
    (coerced : builder.schema.coerce block = .ok options) {children : List Built}
    (fits : builder.children.Fits children) (registry : RegistryId) (name : Option String) :
    FailsWith ConfigError.IsOutside (builder.build registry name options children) := by
  rcases mem_builtIn found with rfl | rfl | rfl | rfl
  · exact Builder.failsOutside_mapping
  · exact Builder.failsOutside_file coerced
  · exact Builder.failsOutside_demo fits
  · exact Builder.failsOutside_database fits

end StoreTopology
